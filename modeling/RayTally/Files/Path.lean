import RayTally.Text.Utf8

/-!
# Paths

A path is a sequence of bytes, as the operating system takes it. It need not be UTF-8; for people it
is shown with U+FFFD in the place of what is not. Slashes divide it into names.
-/

namespace RayTally

/-- A **path**, as bytes. -/
structure Path where
  bytes : Bytes
  deriving DecidableEq, Repr

/-- The name of an entry in a directory. -/
abbrev Name := Bytes

namespace Path

/-- The path that a text names. -/
def ofString (s : String) : Path := ⟨Utf8.ofString s⟩

/-- The text of a path, if it is UTF-8. -/
def text? (p : Path) : Option (List Char) := Utf8.decode p.bytes

/-- The path as shown to people. -/
def shown (p : Path) : String := String.ofList (Utf8.decodeLossy p.bytes)

/-! ### Names -/

/-- The byte that divides names. -/
def slash : UInt8 := 47

/-- The parts of a path between slashes, which may be empty. -/
def parts : Bytes → List Bytes
  | [] => [[]]
  | b :: bs =>
    if b = slash then [] :: parts bs
    else
      match parts bs with
      | [] => [[b]]
      | p :: ps => (b :: p) :: ps

/-- The **names in a path**. Several slashes count as one. -/
def names (p : Path) : List Name := (parts p.bytes).filter fun n => !n.isEmpty

/-- Whether the names start at the root. -/
def isAbsolute (p : Path) : Bool := p.bytes.head? == some slash

/-- Whether a slash stands at the end, which only a directory may bear. -/
def endsInSlash (p : Path) : Bool := p.bytes.getLast? == some slash

/-- The name of a directory in itself. -/
def here : Name := [46]

/-- The name of the directory above. -/
def above : Name := [46, 46]

end Path

end RayTally
