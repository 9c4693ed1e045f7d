import RayTally.Text.Quoted
import RayTally.Text.Decimal

/-!
# Expectations

Where a failure cannot be dealt with, the program stops with a message that ends in the error: texts
are quoted, numbers are written in decimal.
-/

namespace RayTally

/-- An error that a program can **stop with**. -/
inductive ShownError
  | text (s : String)
  | number (n : Nat)
  deriving DecidableEq, Repr

/-- The error as it is shown. -/
def ShownError.shown : ShownError → String
  | text s => Text.Quoted.text s
  | number n => Decimal.text n

/-- The value of a success, or the message with which the program stops. -/
def expect {α : Type} (message : String) : Except ShownError α → Except String α
  | .ok x => .ok x
  | .error e => .error (message ++ ": " ++ e.shown)

end RayTally
