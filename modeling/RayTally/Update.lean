import RayTally.Gate
import RayTally.Tally

/-!
# Updates

Workers report events, and each event is counted by atomic additions: a single counter goes up by
one, or the total of a category does, and then the counter of its outcome. Events pass through the
gate; raw additions pass it by.

## Main results

* `Tally.apply_append`: additions are made one after the other.
-/

namespace RayTally

/-- An **atomic addition** to one counter. -/
structure Addition where
  counter : Counter
  amount : UInt64
  deriving DecidableEq, Repr

namespace Tally

/-- The tally after an addition. -/
def applyOne (t : Tally) (a : Addition) : Tally := t.add a.counter a.amount

/-- The tally after additions, one after the other. -/
def apply (t : Tally) (as : List Addition) : Tally := as.foldl applyOne t

@[simp] theorem apply_nil (t : Tally) : t.apply [] = t := rfl

/-- Additions are made one after the other. -/
theorem apply_append (t : Tally) (as bs : List Addition) :
    t.apply (as ++ bs) = (t.apply as).apply bs := by
  simp [apply]

end Tally

/-- What happens **while rays are traced**: something that one counter counts, or an event of a
category with its outcome. -/
inductive Event
  | single (c : Counter)
  | outcome (k : Category) (first : Bool)
  deriving DecidableEq, Repr

/-- The additions by which an event is counted, in order. -/
def Event.additions : Event → List Addition
  | single c => [⟨c, 1⟩]
  | outcome k first => [⟨k.total, 1⟩, ⟨k.outcome first, 1⟩]

/-- A change of counters: an event, or a **raw** addition. -/
inductive Update
  | record (e : Event)
  | add (a : Addition)
  deriving DecidableEq, Repr

namespace Update

/-- A raw addition of one. -/
def increment (c : Counter) : Update := add ⟨c, 1⟩

/-- The additions that an update makes behind a gate. -/
def additions (g : Gate) : Update → List Addition
  | record e => if g.isEnabled then e.additions else []
  | add a => [a]

end Update

end RayTally
