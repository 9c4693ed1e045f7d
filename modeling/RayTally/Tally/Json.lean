import RayTally.Json.Reader
import RayTally.Tally

/-!
# Tallies as JSON

A tally is an object whose member `values` is an array of the twelve values in export order, or an
array that holds nothing but that array. Members of other names are ignored.
-/

namespace RayTally.Tally

/-- What is expected of the values. -/
def expectedValues : String := "an array of length 12"

/-- A value. -/
def valueOfJson : Json → Except Mismatch UInt64
  | .unsigned n => .ok n
  | .negative n _ => .error (.value (.integer n.toInt) "u64")
  | v => .error (.type v.found "u64")

/-- The first `n` values of an array; `i` of them were read before. -/
def takeValues (i : Nat) : Nat → List Json → Except Mismatch (List UInt64)
  | 0, _ => .ok []
  | _ + 1, [] => .error (.length i expectedValues)
  | n + 1, v :: vs =>
    match valueOfJson v with
    | .error e => .error e
    | .ok x => (takeValues (i + 1) n vs).map (x :: ·)

/-- The tally whose values are given. -/
def ofJsonValues : Json → Except Mismatch Tally
  | .array vs =>
    match takeValues 0 12 vs with
    | .error e => .error e
    | .ok xs =>
      match ofList? xs, decide (vs.length ≤ 12) with
      | some t, true => .ok t
      | _, _ => .error (.length vs.length "fewer elements in array")
  | v => .error (.type v.found expectedValues)

/-- The **tally that a JSON value holds**. -/
def ofJson : Json → Except Mismatch Tally
  | .object ms =>
    match Json.member? "values" ms with
    | some v => ofJsonValues v
    | none => .error (.missingField "values")
  | .array [] => .error (.length 0 "struct StatsSnapshot with 1 element")
  | .array (v :: vs) =>
    match ofJsonValues v with
    | .error e => .error e
    | .ok t =>
      if vs.isEmpty then .ok t else .error (.length (vs.length + 1) "fewer elements in array")
  | v => .error (.type v.found "struct StatsSnapshot")

/-- The tally as a JSON object. -/
def toJson (t : Tally) : Json :=
  .object [("values".toList, .array (t.entries.map fun entry => .unsigned entry.2))]

end RayTally.Tally
