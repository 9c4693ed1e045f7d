import RayTally.Number.Scientific
import RayTally.Text.Quoted

/-!
# Mismatches

A document can be well formed and still not hold what is expected of it. A mismatch says what was
found and what was expected; the wording of some findings depends on the document's format.
-/

namespace RayTally

/-- What a document **holds at a place**. -/
inductive Found
  | nothing
  | boolean (b : Bool)
  | integer (n : Int)
  | wideInteger (n : Int)
  | float (x : FloatValue)
  | text (cs : List Char)
  | sequence
  | mapping

/-- How a document format speaks of what it holds: its word for nothing, and how it lays out
floating point numbers. -/
structure Wording where
  nothing : String
  layout : Layout

/-- The numeral of an integer. -/
def integerText (n : Int) : String :=
  if n < 0 then "-" ++ Decimal.text n.natAbs else Decimal.text n.natAbs

/-- The words for what is found. An integer past 64 bits is named with its width. -/
def Found.describe (w : Wording) : Found → String
  | nothing => w.nothing
  | boolean b => "boolean `" ++ toString b ++ "`"
  | integer n => "integer `" ++ integerText n ++ "`"
  | wideInteger n =>
    "integer `" ++ integerText n ++ "` as " ++ if n < 0 then "i128" else "u128"
  | float x => "floating point `" ++ String.ofList (x.text w.layout) ++ "`"
  | text cs => "string " ++ String.ofList (Text.Quoted.quote cs)
  | sequence => "sequence"
  | mapping => "map"

/-- Why what a document holds is **not what is expected**. -/
inductive Mismatch
  | type (found : Found) (expected : String)
  | value (found : Found) (expected : String)
  | length (n : Nat) (expected : String)
  | missingField (name : String)
  | duplicateField (name : String)

/-- The words for a mismatch. -/
def Mismatch.message (w : Wording) : Mismatch → String
  | type f e => "invalid type: " ++ f.describe w ++ ", expected " ++ e
  | value f e => "invalid value: " ++ f.describe w ++ ", expected " ++ e
  | length n e => "invalid length " ++ Decimal.text n ++ ", expected " ++ e
  | missingField name => "missing field `" ++ name ++ "`"
  | duplicateField name => "duplicate field `" ++ name ++ "`"

end RayTally
