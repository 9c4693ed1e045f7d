import RayTally.Tally
import RayTally.Text.Decimal

/-!
# Balance

A tally is balanced if in every category the two outcomes add up to the total. The sum is taken over
the naturals, so counters near `2 ^ 64` cannot hide an imbalance by wrapping around.

## Main results

* `Tally.mem_imbalances`: exactly the categories that do not add up are reported.
-/

namespace RayTally

/-- The name by which reports call a category. -/
def Category.label : Category → String
  | rayBox => "Ray-Box"
  | rayTriangle => "Ray-Triangle"
  | traversal => "BVH"
  | ray => "Ray"

namespace Tally

/-- Whether the outcomes of a category **add up** to its total. -/
def Balanced (t : Tally) (k : Category) : Prop :=
  (t.get k.first).toNat + (t.get k.second).toNat = (t.get k.total).toNat

instance (t : Tally) (k : Category) : Decidable (t.Balanced k) :=
  inferInstanceAs (Decidable (_ = _))

/-- The categories that do not add up, in report order. -/
def imbalances (t : Tally) : List Category :=
  Category.all.filter fun k => ¬ t.Balanced k

/-- A counter with its value. -/
def shown (t : Tally) (c : Counter) : String :=
  c.name ++ " (" ++ Decimal.text (t.get c).toNat ++ ")"

/-- The line that reports an imbalance. -/
def imbalanceText (t : Tally) (k : Category) : String :=
  k.label ++ ": " ++ t.shown k.first ++ " + " ++ t.shown k.second ++ " != " ++ t.shown k.total

/-- The report lines of all imbalances. -/
def issues (t : Tally) : List String := t.imbalances.map t.imbalanceText

/-- Exactly the categories that do not add up are reported. -/
theorem mem_imbalances {t : Tally} {k : Category} : k ∈ t.imbalances ↔ ¬ t.Balanced k := by
  cases k <;> simp [imbalances, Category.all]

end Tally

end RayTally
