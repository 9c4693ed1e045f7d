import RayTally.Text.Utf8

/-!
# Characters and places in a YAML text

The classes of characters that the syntax of YAML distinguishes, and cursors, which walk over a
text and keep count of characters, lines and columns.
-/

namespace RayTally.Yaml

/-! ### Classes -/

/-- Whether a character may stand in a text as it is. -/
def isAllowed (c : Char) : Bool :=
  let n := c.toNat
  n == 0x09 || n == 0x0A || n == 0x0D || (0x20 ≤ n && n ≤ 0x7E) || n == 0x85
    || (0xA0 ≤ n && n ≤ 0xD7FF) || (0xE000 ≤ n && n ≤ 0xFFFD) || 0x10000 ≤ n

/-- Spaces and tabs. -/
def isBlank (c : Char) : Bool := c == ' ' || c == '\t'

/-- The **line break** that a character makes, as it is kept in a scalar: line and paragraph
separators stay what they are, and all others become a line feed. -/
def breakOf? (c : Char) : Option Char :=
  if c == '\n' || c == '\r' || c == '\x85' then some '\n'
  else if c == '\u2028' || c == '\u2029' then some c
  else none

/-- Whether a character ends a line. -/
def isBreak (c : Char) : Bool := (breakOf? c).isSome

/-- Whether a character is a blank or ends a line. -/
def isSpacing (c : Char) : Bool := isBlank c || isBreak c

/-- Whether a text starts with a blank or a line break, or is at its end. -/
def atSpacing : List Char → Bool
  | [] => true
  | c :: _ => isSpacing c

/-- Letters, digits, `_` and `-`. -/
def isWord (c : Char) : Bool := c.isAlphanum || c == '_' || c == '-'

/-! ### Places -/

/-- A **place in a text**, counted from zero: characters from its start, lines, and characters from
the start of the line. -/
structure Mark where
  index : Nat
  line : Nat
  column : Nat
  deriving DecidableEq, Repr

namespace Mark

/-- The start of a text. -/
def start : Mark := ⟨0, 0, 0⟩

/-- The place `n` characters further in the same line. -/
def advance (m : Mark) (n : Nat) : Mark := ⟨m.index + n, m.line, m.column + n⟩

/-- The place at the start of the next line, behind a break of `n` characters. -/
def newLine (m : Mark) (n : Nat) : Mark := ⟨m.index + n, m.line + 1, 0⟩

end Mark

/-- A place with the text from there on. -/
structure Cursor where
  rest : List Char
  mark : Mark

namespace Cursor

/-- The cursor `n` characters further in the same line. -/
def advance (c : Cursor) (n : Nat) : Cursor := ⟨c.rest.drop n, c.mark.advance n⟩

/-- The characters from the cursor on that satisfy `p`. -/
def run (c : Cursor) (p : Char → Bool) : List Char := c.rest.takeWhile p

/-- The cursor behind the characters that satisfy `p`. -/
def skipWhile (c : Cursor) (p : Char → Bool) : Cursor := c.advance (c.run p).length

/-- The break at the cursor, as it is kept, and the cursor behind it. A carriage return and a line
feed are one break. Nothing is read where there is no break. -/
def readBreak (c : Cursor) : List Char × Cursor :=
  match c.rest with
  | '\r' :: '\n' :: cs => (['\n'], ⟨cs, c.mark.newLine 2⟩)
  | b :: cs =>
    match breakOf? b with
    | some b => ([b], ⟨cs, c.mark.newLine 1⟩)
    | none => ([], c)
  | [] => ([], c)

/-- Whether a line starts here with three equal signs `x` that stand alone. -/
def atRule (x : Char) (c : Cursor) : Bool :=
  c.mark.column == 0 && match c.rest with
    | a :: b :: d :: cs => a == x && b == x && d == x && atSpacing cs
    | _ => false

/-- Whether a line starts here that begins or ends a document. -/
def atDocumentLine (c : Cursor) : Bool := c.atRule '-' || c.atRule '.'

end Cursor

end RayTally.Yaml
