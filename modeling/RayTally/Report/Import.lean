import RayTally.Report.Export
import RayTally.Stream.Source
import RayTally.Text.Blank

/-!
# Reading an export

An export is read line by line. Blank lines and lines that start with `#` are skipped; every other
line must hold the name of a counter, a comma and a 64-bit number, with blanks allowed around both.
The first bad line is reported, and if there is none the counters that no line defines.

## Main results

* `Import.read_nil`: an export without lines defines nothing, so all counters are missing.
-/

namespace RayTally.Import

/-- What is **wrong with a line**. -/
inductive LineError
  | unreadable (why : Failure)
  | noComma
  | unknownCounter (name : String)
  | badValue (value : String) (counter : Counter) (why : Decimal.NumeralError)
  | duplicate (counter : Counter)

/-- The words for what is wrong with a line. -/
def LineError.message : LineError → String
  | unreadable why => "Read failed: " ++ why.message
  | noComma => "Expected 'name,value'"
  | unknownCounter name => "Unknown counter '" ++ name ++ "'"
  | badValue value c why =>
    "Invalid value '" ++ value ++ "' for '" ++ c.name ++ "': " ++ why.message
  | duplicate c => "Duplicate counter '" ++ c.name ++ "'"

/-- Why a text is **no export**. -/
inductive ImportError
  | badLine (number : Nat) (why : LineError)
  | missing (counters : List Counter)

/-- The words for why a text is no export. -/
def ImportError.message : ImportError → String
  | badLine n why => "Line " ++ Decimal.text n ++ ": " ++ why.message
  | missing cs => "Missing counters: " ++ ", ".intercalate (cs.map Counter.name)

/-- Reads the entry of a line; `none` if the line is to be skipped. -/
def readEntry (line : List Char) : Except LineError (Option (Counter × UInt64)) :=
  match Text.trim line with
  | [] => .ok none
  | '#' :: _ => .ok none
  | cs =>
    match Text.splitAtFirst ',' cs with
    | none => .error .noComma
    | some (name, value) =>
      match Counter.ofName? (String.ofList (Text.trim name)) with
      | none => .error (.unknownCounter (String.ofList name))
      | some c =>
        match Decimal.readUInt64 (Text.trim value) with
        | .error why => .error (.badValue (String.ofList value) c why)
        | .ok n => .ok (some (c, n))

/-- The entries found so far, the latest first. -/
abbrev Found := List (Counter × UInt64)

/-- Adds what a line says to what was found. -/
def readLine (found : Found) (line : Except Failure (List Char)) : Except LineError Found :=
  match line with
  | .error why => .error (.unreadable why)
  | .ok cs =>
    match readEntry cs with
    | .error e => .error e
    | .ok none => .ok found
    | .ok (some (c, n)) =>
      if (found.lookup c).isSome then .error (.duplicate c) else .ok ((c, n) :: found)

/-- Reads lines from number `n` on. -/
def readLines (n : Nat) (found : Found) :
    List (Except Failure (List Char)) → Except ImportError Found
  | [] => .ok found
  | line :: lines =>
    match readLine found line with
    | .error why => .error (.badLine n why)
    | .ok found => readLines (n + 1) found lines

/-- The counters that were not found, in export order. -/
def missing (found : Found) : List Counter :=
  Counter.all.filter fun c => (found.lookup c).isNone

/-- The tally that the entries found define. -/
def Found.tally (found : Found) : Tally := .ofFn fun c => (found.lookup c).getD 0

/-- Reads an **export** given as lines. -/
def read (lines : List (Except Failure (List Char))) : Except ImportError Tally :=
  match readLines 1 [] lines with
  | .error e => .error e
  | .ok found =>
    match missing found with
    | [] => .ok found.tally
    | cs => .error (.missing cs)

/-- Reads an export from a source. -/
def readSource (s : Source) : Except ImportError Tally := read s.texts

/-- Without lines all counters are missing. -/
theorem read_nil : read [] = .error (.missing Counter.all) := rfl

end RayTally.Import
