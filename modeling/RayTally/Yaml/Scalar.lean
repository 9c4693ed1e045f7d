import RayTally.Yaml.Character

/-!
# Scalars of YAML

The texts of scalars as they are read from a document: plain, between single or double quotes, and
as blocks of lines. In all but the blocks, blanks around a line break fold: one break is a space,
and several are one less.

Readers give `none` for what is not well formed.
-/

namespace RayTally.Yaml

/-- How a scalar is written. -/
inductive Style
  | plain
  | singleQuoted
  | doubleQuoted
  | literal
  | folded
  deriving DecidableEq, Repr

/-! ### Folding -/

/-- The **blanks and breaks between two words** of a scalar: the blanks, as long as there is no
break; the first break, which is empty if it was escaped; and the further breaks. -/
structure Gap where
  blanks : List Char := []
  first : Option (List Char) := none
  further : List Char := []

namespace Gap

/-- Nothing between two words. -/
def empty : Gap := {}

/-- The gap behind an escaped break. -/
def escaped : Gap := { first := some [] }

/-- The gap with a blank more. Blanks next to a break do not count. -/
def addBlank (g : Gap) (c : Char) : Gap :=
  if g.first.isSome then g else { g with blanks := g.blanks ++ [c] }

/-- The gap with a break more. -/
def addBreak (g : Gap) (b : List Char) : Gap :=
  if g.first.isSome then { g with further := g.further ++ b } else { blanks := [], first := some b }

/-- Whether anything was skipped. -/
def isEmpty (g : Gap) : Bool := g.blanks.isEmpty && g.first.isNone

/-- What a gap **folds** to. -/
def text (g : Gap) : List Char :=
  match g.first with
  | none => g.blanks
  | some ['\n'] => if g.further.isEmpty then [' '] else g.further
  | some b => b ++ g.further

end Gap

/-- A text that was read, put behind another one. -/
def behind (front : List Char) {α : Type} (r : Option (List Char × α)) : Option (List Char × α) :=
  r.map fun (cs, x) => (front ++ cs, x)

/-! ### Quoted scalars -/

/-- Reads a scalar between single quotes, behind the opening one. A quote inside is doubled. -/
def readSingleQuoted (g : Gap) (m : Mark) : List Char → Option (List Char × Cursor)
  | [] => none
  | '\r' :: '\n' :: cs => readSingleQuoted (g.addBreak ['\n']) (m.newLine 2) cs
  | '\x27' :: '\x27' :: cs => behind (g.text ++ ['\x27']) (readSingleQuoted .empty (m.advance 2) cs)
  | c :: cs =>
    if isBlank c then readSingleQuoted (g.addBlank c) (m.advance 1) cs
    else
      match breakOf? c with
      | some b => readSingleQuoted (g.addBreak [b]) (m.newLine 1) cs
      | none =>
        if Cursor.atDocumentLine ⟨c :: cs, m⟩ then none
        else if c = '\x27' then some (g.text, ⟨cs, m.advance 1⟩)
        else behind (g.text ++ [c]) (readSingleQuoted .empty (m.advance 1) cs)

/-- The character that a letter stands for behind a backslash. -/
def escapedChar? : Char → Option Char
  | '0' => some '\x00'
  | 'a' => some '\x07'
  | 'b' => some '\x08'
  | 't' => some '\t'
  | '\t' => some '\t'
  | 'n' => some '\n'
  | 'v' => some '\x0b'
  | 'f' => some '\x0c'
  | 'r' => some '\r'
  | 'e' => some '\x1b'
  | ' ' => some ' '
  | '"' => some '"'
  | '/' => some '/'
  | '\\' => some '\\'
  | 'N' => some '\x85'
  | '_' => some '\xa0'
  | 'L' => some '\u2028'
  | 'P' => some '\u2029'
  | _ => none

/-- The value of a hexadecimal digit. -/
def hexDigit? (c : Char) : Option Nat :=
  if '0' ≤ c ∧ c ≤ '9' then some (c.toNat - 48)
  else if 'a' ≤ c ∧ c ≤ 'f' then some (c.toNat - 87)
  else if 'A' ≤ c ∧ c ≤ 'F' then some (c.toNat - 55)
  else none

/-- The value of hexadecimal digits. -/
def hexValue? (cs : List Char) : Option Nat :=
  cs.foldl (fun n c => n.bind fun n => (hexDigit? c).map (n * 16 + ·)) (some 0)

/-- The character with the number that hexadecimal digits give. -/
def numberedChar? (cs : List Char) : Option Char :=
  match hexValue? cs with
  | some n => if n < 0xD800 ∨ (0xDFFF < n ∧ n ≤ 0x10FFFF) then some (Char.ofNat n) else none
  | none => none

/-- Reads a scalar between double quotes, behind the opening one. -/
def readDoubleQuoted (g : Gap) (m : Mark) : List Char → Option (List Char × Cursor)
  | [] => none
  | '\r' :: '\n' :: cs => readDoubleQuoted (g.addBreak ['\n']) (m.newLine 2) cs
  | '\\' :: '\r' :: '\n' :: cs => behind g.text (readDoubleQuoted .escaped (m.newLine 3) cs)
  | '\\' :: 'x' :: a :: b :: cs =>
    match numberedChar? [a, b] with
    | some c => behind (g.text ++ [c]) (readDoubleQuoted .empty (m.advance 4) cs)
    | none => none
  | '\\' :: 'u' :: a :: b :: d :: e :: cs =>
    match numberedChar? [a, b, d, e] with
    | some c => behind (g.text ++ [c]) (readDoubleQuoted .empty (m.advance 6) cs)
    | none => none
  | '\\' :: 'U' :: a :: b :: d :: e :: f :: h :: i :: j :: cs =>
    match numberedChar? [a, b, d, e, f, h, i, j] with
    | some c => behind (g.text ++ [c]) (readDoubleQuoted .empty (m.advance 10) cs)
    | none => none
  | '\\' :: e :: cs =>
    match breakOf? e, escapedChar? e with
    | some _, _ => behind g.text (readDoubleQuoted .escaped (m.newLine 2) cs)
    | none, some c => behind (g.text ++ [c]) (readDoubleQuoted .empty (m.advance 2) cs)
    | none, none => none
  | c :: cs =>
    if isBlank c then readDoubleQuoted (g.addBlank c) (m.advance 1) cs
    else
      match breakOf? c with
      | some b => readDoubleQuoted (g.addBreak [b]) (m.newLine 1) cs
      | none =>
        if Cursor.atDocumentLine ⟨c :: cs, m⟩ then none
        else if c = '"' then some (g.text, ⟨cs, m.advance 1⟩)
        else behind (g.text ++ [c]) (readDoubleQuoted .empty (m.advance 1) cs)

/-! ### Plain scalars -/

/-- Whether a character separates the parts of a flow collection. -/
def isFlowIndicator (c : Char) : Bool :=
  c == ',' || c == '[' || c == ']' || c == '\x7b' || c == '\x7d'

/-- Where a plain scalar stands: inside a flow collection or not, and the least column that its
further lines may start at. -/
structure PlainContext where
  inFlow : Bool
  indent : Nat

/-- Whether a plain scalar ends before `c`, which is followed by `cs`. -/
def endsPlain (ctx : PlainContext) (c : Char) (cs : List Char) : Bool :=
  (c == ':' && atSpacing cs) || (ctx.inFlow && isFlowIndicator c)

/-- Whether a colon inside a flow collection touches an indicator, which is not allowed. -/
def badColon (ctx : PlainContext) (c : Char) (cs : List Char) : Bool :=
  ctx.inFlow && c == ':' && match cs with
    | d :: _ => d == '?' || isFlowIndicator d
    | [] => false

/-- What ends a plain scalar before `c`: a line that is indented too little or belongs to the
document, a comment, or an indicator. -/
def stopsPlain (ctx : PlainContext) (g : Gap) (m : Mark) (c : Char) (cs : List Char) : Bool :=
  (!g.isEmpty && !ctx.inFlow && m.column < ctx.indent)
    || Cursor.atDocumentLine ⟨c :: cs, m⟩
    || (!g.isEmpty && c == '#')

/-- The end of a plain scalar: where it is, and whether a line break precedes it. -/
structure PlainEnd where
  cursor : Cursor
  afterBreak : Bool

/-- Reads a plain scalar. -/
def readPlain (ctx : PlainContext) (g : Gap) (m : Mark) : List Char → Option (List Char × PlainEnd)
  | [] => some ([], ⟨⟨[], m⟩, g.first.isSome⟩)
  | '\r' :: '\n' :: cs => readPlain ctx (g.addBreak ['\n']) (m.newLine 2) cs
  | c :: cs =>
    if isBlank c then
      if g.first.isSome && m.column < ctx.indent && c == '\t' then none
      else readPlain ctx (g.addBlank c) (m.advance 1) cs
    else
      match breakOf? c with
      | some b => readPlain ctx (g.addBreak [b]) (m.newLine 1) cs
      | none =>
        if stopsPlain ctx g m c cs then some ([], ⟨⟨c :: cs, m⟩, g.first.isSome⟩)
        else if badColon ctx c cs then none
        else if endsPlain ctx c cs then some ([], ⟨⟨c :: cs, m⟩, g.first.isSome⟩)
        else behind (g.text ++ [c]) (readPlain ctx .empty (m.advance 1) cs)

/-! ### Block scalars -/

/-- What becomes of the breaks at the end of a block. -/
inductive Chomping
  | strip
  | clip
  | keep
  deriving DecidableEq, Repr

/-- The first line of a block: what becomes of its last breaks, and its indentation if given. -/
structure BlockHeader where
  chomping : Chomping
  indent : Option Nat

/-- Reads the sign for the breaks at the end. -/
def readChomping (c : Cursor) : Option Chomping × Cursor :=
  match c.rest with
  | '+' :: _ => (some .keep, c.advance 1)
  | '-' :: _ => (some .strip, c.advance 1)
  | _ => (none, c)

/-- Reads the digit for the indentation, which must not be zero. -/
def readIndent (c : Cursor) : Option (Option Nat × Cursor) :=
  match c.rest with
  | d :: _ =>
    if d == '0' then none
    else if d.isDigit then some (some (d.toNat - 48), c.advance 1)
    else some (none, c)
  | [] => some (none, c)

/-- Passes over blanks, a comment and the break that ends the line; nothing else may be there. -/
def skipLineEnd (c : Cursor) : Option Cursor :=
  let c := c.skipWhile isBlank
  let c := match c.rest with
    | '#' :: _ => c.skipWhile fun x => !isBreak x
    | _ => c
  match c.rest with
  | [] => some c
  | x :: _ => if isBreak x then some c.readBreak.2 else none

/-- Reads the rest of a block's first line. The two signs stand in either order. -/
def readBlockHeader (c : Cursor) : Option (BlockHeader × Cursor) :=
  match readChomping c with
  | (some k, c) =>
    match readIndent c with
    | none => none
    | some (n, c) => (skipLineEnd c).map fun c => (⟨k, n⟩, c)
  | (none, c) =>
    match readIndent c with
    | none => none
    | some (none, c) => (skipLineEnd c).map fun c => (⟨.clip, none⟩, c)
    | some (some n, c) =>
      let (k, c) := readChomping c
      (skipLineEnd c).map fun c => (⟨k.getD .clip, some n⟩, c)

/-- Reads empty lines and the indentation of the line after them, up to a limit if there is one.
Gives the breaks, the largest column reached, and the cursor. A tab must not stand for
indentation. -/
def readBlockBreaks (limit : Option Nat) (reached : Nat) (m : Mark) :
    List Char → Option (List Char × Nat × Cursor)
  | [] => some ([], max reached m.column, ⟨[], m⟩)
  | '\r' :: '\n' :: cs =>
    behind ['\n'] (readBlockBreaks limit (max reached m.column) (m.newLine 2) cs)
  | c :: cs =>
    if c == ' ' && limit.all (m.column < ·) then readBlockBreaks limit reached (m.advance 1) cs
    else if c == '\t' && limit.all (m.column < ·) then none
    else
      match breakOf? c with
      | some b => behind [b] (readBlockBreaks limit (max reached m.column) (m.newLine 1) cs)
      | none => some ([], max reached m.column, ⟨c :: cs, m⟩)

/-- The breaks between two lines of a block: the one that ends the first, and those of empty
lines. -/
structure BlockGap where
  first : List Char
  further : List Char

/-- What the breaks before a line become. In a folded block a single line feed between two lines
that start with no blank is a space. -/
def BlockGap.text (style : Style) (g : BlockGap) (blankBefore blankAfter : Bool) : List Char :=
  if style = .folded ∧ g.first = ['\n'] ∧ ¬ blankBefore ∧ ¬ blankAfter then
    if g.further.isEmpty then [' '] else g.further
  else g.first ++ g.further

/-- The end of a block: the breaks behind its last line, and the cursor. -/
structure BlockEnd where
  gap : BlockGap
  cursor : Cursor

/-- Reads the lines of a block that are indented by `indent` columns. -/
def readBlockLines (style : Style) (indent : Nat) :
    Nat → BlockGap → Bool → Cursor → Option (List Char × BlockEnd)
  | 0, _, _, _ => none
  | fuel + 1, g, blankBefore, c =>
    match c.rest with
    | [] => some ([], ⟨g, c⟩)
    | x :: _ =>
      if c.mark.column ≠ indent then some ([], ⟨g, c⟩)
      else
        let line := c.run fun x => !isBreak x
        let (ended, next) := (c.skipWhile fun x => !isBreak x).readBreak
        match readBlockBreaks (some indent) 0 next.mark next.rest with
        | none => none
        | some (further, _, next) =>
          behind (g.text style blankBefore (isBlank x) ++ line)
            (readBlockLines style indent fuel ⟨ended, further⟩ (isBlank x) next)

/-- What remains of the breaks behind the last line. -/
def Chomping.text (k : Chomping) (g : BlockGap) : List Char :=
  match k with
  | .strip => []
  | .clip => g.first
  | .keep => g.first ++ g.further

/-- Reads a **block scalar** behind its indicator, inside a collection indented by `parent`
columns, or by `-1` outside of any. Without a given indentation the first line that is not empty
sets it. -/
def readBlock (style : Style) (parent : Int) (c : Cursor) : Option (List Char × Cursor) :=
  match readBlockHeader c with
  | none => none
  | some (h, c) =>
    let given := h.indent.map fun n => (max parent 0).toNat + n
    match readBlockBreaks given 0 c.mark c.rest with
    | none => none
    | some (breaks, reached, c) =>
      let indent := given.getD (max reached (max (parent + 1).toNat 1))
      match readBlockLines style indent (c.rest.length + 1) ⟨[], breaks⟩ false c with
      | none => none
      | some (cs, e) => some (cs ++ h.chomping.text e.gap, e.cursor)

end RayTally.Yaml
