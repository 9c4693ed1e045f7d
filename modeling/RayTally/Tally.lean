import RayTally.Counter

/-!
# Tallies

A tally holds one 64-bit value for each counter. Adding to a counter wraps around at `2 ^ 64`.

## Main results

* `Tally.get_set`: what is set is what is read, and no other counter changes.
* `Tally.get_add`: adding changes one counter, modulo `2 ^ 64`.
* `Tally.get_ofFn`: the tally made from given values has them.
* `Tally.ext_get`: a tally is determined by the values of its counters.
-/

namespace RayTally

/-- **One value for each counter**, in export order. -/
structure Tally where
  values : Vector UInt64 12
  deriving DecidableEq

namespace Tally

/-- The tally in which every counter is zero. -/
def zero : Tally := ⟨Vector.replicate 12 0⟩

/-- The value of a counter. -/
def get (t : Tally) (c : Counter) : UInt64 := t.values[c.index.val]

/-- The tally with one counter changed to a given value. -/
def set (t : Tally) (c : Counter) (n : UInt64) : Tally := ⟨t.values.set c.index n⟩

/-- The tally with `n` added to one counter; the sum wraps around. -/
def add (t : Tally) (c : Counter) (n : UInt64) : Tally := t.set c (t.get c + n)

/-- The tally with one counter one higher. -/
def increment (t : Tally) (c : Counter) : Tally := t.add c 1

/-- The counters with their values, in export order. -/
def entries (t : Tally) : List (Counter × UInt64) :=
  Counter.all.map fun c => (c, t.get c)

/-- The tally with a given value for each counter. -/
def ofFn (f : Counter → UInt64) : Tally :=
  Counter.all.foldl (fun t c => t.set c (f c)) zero

/-- The tally of twelve values in export order. -/
def ofList? (ns : List UInt64) : Option Tally :=
  if h : ns.length = 12 then some ⟨⟨ns.toArray, by simpa using h⟩⟩ else none

/-! ### Reading after writing -/

@[simp] theorem get_zero (c : Counter) : zero.get c = 0 := by
  simp [get, zero]

/-- **Reading after setting**: the counter that was set has the new value, and every other
counter keeps its own. -/
theorem get_set (t : Tally) (c d : Counter) (n : UInt64) :
    (t.set c n).get d = if c = d then n else t.get d := by
  simp only [get, set, Vector.getElem_set]
  by_cases h : c = d
  · simp [h]
  · have : c.index.val ≠ d.index.val := fun e => h (Counter.index_injective (Fin.ext e))
    simp [h, this]

@[simp] theorem get_set_self (t : Tally) (c : Counter) (n : UInt64) : (t.set c n).get c = n := by
  simp [get_set]

/-- **Reading after adding**: one counter grows, modulo `2 ^ 64`. -/
theorem get_add (t : Tally) (c d : Counter) (n : UInt64) :
    (t.add c n).get d = if c = d then t.get d + n else t.get d := by
  by_cases h : c = d
  · subst h; simp [add]
  · simp [add, get_set, h]

/-- **A tally of given values** has these values. -/
theorem get_ofFn (f : Counter → UInt64) (c : Counter) : (ofFn f).get c = f c := by
  cases c <;> simp [ofFn, Counter.all, get_set]

/-- Two tallies with the same values are equal. -/
theorem ext_get {s t : Tally} (h : ∀ c, s.get c = t.get c) : s = t := by
  obtain ⟨v⟩ := s
  obtain ⟨w⟩ := t
  congr 1
  apply Vector.ext
  intro i hi
  simp only [get] at h
  match i, hi with
  | 0, _ => exact h .boxTests
  | 1, _ => exact h .boxHits
  | 2, _ => exact h .boxMisses
  | 3, _ => exact h .triangleTests
  | 4, _ => exact h .triangleHits
  | 5, _ => exact h .triangleMisses
  | 6, _ => exact h .nodes
  | 7, _ => exact h .leafNodes
  | 8, _ => exact h .innerNodes
  | 9, _ => exact h .rays
  | 10, _ => exact h .raysHit
  | 11, _ => exact h .raysMissed

/-- Setting a counter to the value that it has changes nothing. -/
@[simp] theorem set_get_self (t : Tally) (c : Counter) : t.set c (t.get c) = t := by
  refine ext_get fun d => ?_
  rw [get_set]
  split
  · rename_i h
    rw [h]
  · rfl

end Tally

end RayTally
