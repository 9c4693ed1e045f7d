import RayTally.Tally
import RayTally.Number.Binary64

/-!
# Derived numbers

Shares and averages of counters, in binary64. Both are zero when they would divide by zero.

## Main results

* `average_of_count_eq_zero`: no average is taken over no rays.
-/

namespace RayTally

/-- The **share** of a part in a total, in percent. -/
def percentage (part total : UInt64) : Binary64 :=
  if total = 0 then .zero
  else ((Binary64.ofNat 100).mul (.ofNat part.toNat)).div (.ofNat total.toNat)

/-- The **average** of a value over a number of rays. -/
def average (value count : UInt64) : Binary64 :=
  if count = 0 then .zero else (Binary64.ofNat value.toNat).div (.ofNat count.toNat)

/-- How much work a traced ray took. -/
structure Efficiency where
  boxTests : Binary64
  triangleTests : Binary64
  nodes : Binary64
  deriving DecidableEq

namespace Efficiency

/-- No work at all. -/
def none : Efficiency := ⟨.zero, .zero, .zero⟩

/-- The averages of a tally over the rays it traced. -/
def ofTally (t : Tally) : Efficiency where
  boxTests := average (t.get .boxTests) (t.get .rays)
  triangleTests := average (t.get .triangleTests) (t.get .rays)
  nodes := average (t.get .nodes) (t.get .rays)

end Efficiency

theorem average_of_count_eq_zero (value : UInt64) : average value 0 = .zero := rfl

end RayTally
