import RayTally.Yaml.Plain

/-!
# Writing scalars

A text is written as a scalar that reads back as the same text: plain if it can be, else between
single quotes, else between double quotes; a text with line feeds as a block of lines if it can
be. A plain scalar must not stand for anything but its text, and must not look like syntax. Single
quotes keep all but characters that need an escape and spaces next to a line break; in a block,
spaces must not end a line.
-/

namespace RayTally.Yaml.Printer

/-! ### The choice of style -/

/-- Whether a character may be written as it is. -/
def isPrintable (c : Char) : Bool :=
  let n := c.toNat
  n == 0x0A || (0x20 ≤ n && n ≤ 0x7E) || (0xA0 ≤ n && n ≤ 0xD7FF)
    || (0xE000 ≤ n && n ≤ 0xFFFD && n != 0xFEFF) || 0x10000 ≤ n

/-- Whether two neighbours in a text satisfy `p`. -/
def hasNeighbours (p : Char → Char → Bool) : List Char → Bool
  | c :: d :: cs => p c d || hasNeighbours p (d :: cs)
  | _ => false

/-- Whether a space follows a line break. -/
def hasBreakThenSpace (cs : List Char) : Bool := hasNeighbours (fun c d => isBreak c && d == ' ') cs

/-- Whether a line break follows a space. -/
def hasSpaceThenBreak (cs : List Char) : Bool := hasNeighbours (fun c d => c == ' ' && isBreak d) cs

/-- Whether a text starts like syntax: with a document line, an indicator, or an indicator that
stands alone. -/
def startsLikeSyntax : List Char → Bool
  | '-' :: '-' :: '-' :: _ => true
  | '.' :: '.' :: '.' :: _ => true
  | c :: cs =>
    "#,[]\x7b\x7d&*!|>\x27\"%@\x60".toList.contains c
      || ((c == '-' || c == '?' || c == ':') && atSpacing cs)
  | [] => false

/-- Whether a text has syntax inside: a colon before or a number sign behind a blank. -/
def containsSyntax : List Char → Bool
  | c :: d :: cs =>
    (isSpacing c && d == '#') || (d == ':' && atSpacing cs) || containsSyntax (d :: cs)
  | _ => false

/-- Whether a text stands for itself when it is plain. Numerals with redundant zeros do, but other
readers may take them for numbers. -/
def standsForItself (cs : List Char) : Bool :=
  !Plain.hasRedundantZero cs && match Plain.resolve cs with
    | .text _ => true
    | _ => false

/-- Whether a text may be plain. -/
def allowsPlain (cs : List Char) : Bool :=
  standsForItself cs && cs.all (fun c => isPrintable c && !isBreak c)
    && cs.head? != some ' ' && cs.getLast? != some ' '
    && !startsLikeSyntax cs && !containsSyntax cs

/-- Whether a text may stand between single quotes. -/
def allowsSingleQuotes (cs : List Char) : Bool :=
  cs.all isPrintable && !hasBreakThenSpace cs && !hasSpaceThenBreak cs

/-- Whether a text may be a block. -/
def allowsBlock (cs : List Char) : Bool :=
  cs.all isPrintable && !hasSpaceThenBreak cs && cs.getLast? != some ' '

/-- The **style in which a text is written**. -/
def style (cs : List Char) : Style :=
  if cs.contains '\n' then
    if allowsBlock cs then .literal else .doubleQuoted
  else if allowsPlain cs then .plain
  else if allowsSingleQuotes cs then .singleQuoted
  else .doubleQuoted

/-! ### Quotes -/

/-- The indentation of lines that continue a scalar. -/
def indentation : List Char := [' ', ' ']

/-- The text between single quotes, with the closing one. `fresh` says that a line starts. -/
def singleQuotedBody : Bool → List Char → List Char
  | fresh, [] => (if fresh then indentation else []) ++ ['\x27']
  | fresh, c :: cs =>
    if isBreak c then c :: singleQuotedBody true cs
    else
      (if fresh then indentation else []) ++ (if c = '\x27' then ['\x27', c] else [c]) ++
        singleQuotedBody false cs

/-- An upper-case hexadecimal digit. -/
def hexDigit (n : Nat) : Char := if n < 10 then Char.ofNat (48 + n) else Char.ofNat (55 + n)

/-- A number in hexadecimal, with a given count of digits. -/
def hexDigits : Nat → Nat → List Char
  | 0, _ => []
  | k + 1, n => hexDigits k (n / 16) ++ [hexDigit (n % 16)]

/-- A character given by its number. -/
def numbered (c : Char) : List Char :=
  let n := c.toNat
  if n ≤ 0xFF then 'x' :: hexDigits 2 n
  else if n ≤ 0xFFFF then 'u' :: hexDigits 4 n
  else 'U' :: hexDigits 8 n

/-- What stands behind the backslash that escapes a character. -/
def escape : Char → List Char
  | '\x00' => ['0']
  | '\x07' => ['a']
  | '\x08' => ['b']
  | '\t' => ['t']
  | '\n' => ['n']
  | '\x0b' => ['v']
  | '\x0c' => ['f']
  | '\r' => ['r']
  | '\x1b' => ['e']
  | '"' => ['"']
  | '\\' => ['\\']
  | '\x85' => ['N']
  | '\u2028' => ['L']
  | '\u2029' => ['P']
  | c => numbered c

/-- Whether a character is escaped between double quotes. -/
def needsEscape (c : Char) : Bool := !isPrintable c || isBreak c || c == '"' || c == '\\'

/-- A character between double quotes. -/
def doubleQuotedChar (c : Char) : List Char := if needsEscape c then '\\' :: escape c else [c]

/-! ### Blocks -/

/-- The lines of a block. `fresh` says that a line starts; empty lines are not indented. -/
def blockBody : Bool → List Char → List Char
  | _, [] => []
  | fresh, c :: cs =>
    if isBreak c then c :: blockBody true cs
    else (if fresh then indentation else []) ++ c :: blockBody false cs

/-- The indentation, which must be given if the first line starts with a blank or is empty. -/
def indentHint (cs : List Char) : List Char :=
  match cs with
  | c :: _ => if c == ' ' || isBreak c then ['2'] else []
  | [] => []

/-- What becomes of the breaks at the end: there is none, there is one behind a line, or more. -/
def chomping (cs : List Char) : Chomping :=
  match cs.reverse with
  | c :: d :: _ => if !isBreak c then .strip else if isBreak d then .keep else .clip
  | [c] => if isBreak c then .keep else .strip
  | [] => .strip

/-- The sign for what becomes of the breaks at the end. -/
def chompingSign : Chomping → List Char
  | .strip => ['-']
  | .clip => []
  | .keep => ['+']

/-! ### Scalars -/

/-- The text in a given style. -/
def inStyle (cs : List Char) : Style → List Char
  | .plain => cs
  | .singleQuoted => '\x27' :: singleQuotedBody false cs
  | .doubleQuoted => '"' :: cs.flatMap doubleQuotedChar ++ ['"']
  | .literal | .folded =>
    '|' :: indentHint cs ++ chompingSign (chomping cs) ++ '\n' :: blockBody true cs

/-- A text as a **scalar, to the end of its line**. A block that ends with a break ends its line. -/
def line (cs : List Char) : List Char :=
  inStyle cs (style cs) ++
    if style cs = .literal ∧ cs.getLast?.any isBreak then [] else ['\n']

/-- The line of a boolean. -/
def booleanLine (b : Bool) : List Char := (if b then "true" else "false").toList ++ ['\n']

/-- The line of nothing. -/
def nullLine : List Char := "null\n".toList

/-- An entry of a mapping: a key, which must be a word, and the line of its value. -/
def entry (key : String) (value : List Char) : List Char := key.toList ++ [':', ' '] ++ value

end RayTally.Yaml.Printer
