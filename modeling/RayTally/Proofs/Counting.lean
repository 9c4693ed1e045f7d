import Mathlib.Algebra.BigOperators.Intervals
import RayTally.Proofs.Lifecycle
import RayTally.Recorder

/-!
# What counters hold

At every point of a run a counter holds the sum of what was contributed to it since all counters
were last set to zero, modulo `2 ^ 64`. Raw updates always contribute, and events contribute if the
gate is open when they are recorded, which the first `init` decides.

## Main results

* `Tally.toNat_get_apply`: additions add up, modulo `2 ^ 64`.
* `Act.toNat_get_enact`: an act that does not set counters to zero contributes.
* `Counted.enact`, `Counted.run`: so counters hold the sum of the contributions.
* `Collector.counters_run`: the whole contract, recorders and operations that do not count included.
-/

namespace RayTally

/-! ### Contributions -/

/-- What an addition **contributes** to a counter. -/
def Addition.contribution (k : Counter) (a : Addition) : Nat :=
  if a.counter = k then a.amount.toNat else 0

/-- What an update contributes to a counter: a raw addition its amount, and an event one to each of
its counters if the gate is open. The flag of an event of a category chooses between the two
outcomes. -/
def Update.contribution (isOpen : Bool) (k : Counter) : Update → Nat
  | .add a => a.contribution k
  | .record (.single c) => if isOpen = true ∧ c = k then 1 else 0
  | .record (.outcome g flag) =>
    if isOpen = true then
      (if g.total = k then 1 else 0) + (if (if flag then g.first else g.second) = k then 1 else 0)
    else 0

/-- What an act contributes to a counter. -/
def Act.contribution (isOpen : Bool) (k : Counter) : Act → Nat
  | .count us => (us.map (Update.contribution isOpen k)).sum
  | _ => 0

/-- Whether the gate is open after acts: the first `init` decides. -/
def isOpen (as : List Act) : Bool :=
  match firstInit? as with
  | some (s, _) => s.enabled
  | none => false

/-- The act sets all counters **to zero**: it clears them, or it is the first `init` and turns
collection on. -/
def Zeroes (before : List Act) : Act → Prop
  | .init s => firstInit? before = none ∧ s.enabled = true
  | .clear => True
  | _ => False

/-- The act at a place sets all counters to zero. -/
def ZeroesAt (as : List Act) (i : Nat) : Prop := ∃ a, as[i]? = some a ∧ Zeroes (as.take i) a

/-- What the act at a place contributes to a counter. -/
def contributionAt (as : List Act) (k : Counter) (i : Nat) : Nat :=
  match as[i]? with
  | some a => a.contribution (isOpen (as.take i)) k
  | none => 0

/-- **Counters hold sums**: what was contributed since the last act that set all to zero, or since
the start. -/
def Counted (as : List Act) (t : Tally) : Prop :=
  ∃ m ≤ as.length, (m = 0 ∨ ZeroesAt as (m - 1)) ∧ (∀ i, m ≤ i → ¬ZeroesAt as i) ∧
    ∀ k, (t.get k).toNat = (∑ i ∈ Finset.Ico m as.length, contributionAt as k i) % 2 ^ 64

/-! ### Additions -/

namespace Tally

/-- An addition contributes to its counter. -/
theorem toNat_get_applyOne (t : Tally) (a : Addition) (k : Counter) :
    ((t.applyOne a).get k).toNat = ((t.get k).toNat + a.contribution k) % 2 ^ 64 := by
  rw [applyOne, get_add, Addition.contribution]
  split
  · rw [UInt64.toNat_add]
  · rw [Nat.add_zero, Nat.mod_eq_of_lt (t.get k).toNat_lt]

/-- **Additions add up**, modulo `2 ^ 64`. -/
theorem toNat_get_apply (t : Tally) (as : List Addition) (k : Counter) :
    ((t.apply as).get k).toNat =
      ((t.get k).toNat + (as.map (Addition.contribution k)).sum) % 2 ^ 64 := by
  induction as generalizing t with
  | nil =>
    rw [apply_nil, List.map_nil, List.sum_nil, Nat.add_zero, Nat.mod_eq_of_lt (t.get k).toNat_lt]
  | cons a as ih =>
    have hcons : t.apply (a :: as) = (t.applyOne a).apply as := rfl
    rw [hcons, ih, toNat_get_applyOne, Nat.mod_add_mod, List.map_cons, List.sum_cons,
      Nat.add_assoc]

end Tally

/-- An update contributes what its additions do. -/
theorem Update.sum_additions (g : Gate) (u : Update) (k : Counter) :
    ((u.additions g).map (Addition.contribution k)).sum = u.contribution g.isEnabled k := by
  cases u with
  | add a => simp [additions, contribution]
  | record e =>
    cases hg : g.isEnabled with
    | false => cases e <;> simp [additions, contribution, hg]
    | true =>
      cases e with
      | single c => simp [additions, contribution, hg, Event.additions, Addition.contribution]
      | outcome g' flag =>
        simp [additions, contribution, hg, Event.additions, Addition.contribution, Category.outcome]

/-- Updates contribute what their additions do. -/
theorem Update.sum_flatMap_additions (g : Gate) (us : List Update) (k : Counter) :
    ((us.flatMap (Update.additions g)).map (Addition.contribution k)).sum =
      (us.map (Update.contribution g.isEnabled k)).sum := by
  induction us with
  | nil => rfl
  | cons u us ih =>
    rw [List.flatMap_cons, List.map_append, List.sum_append, ih, Update.sum_additions,
      List.map_cons, List.sum_cons]

/-! ### Acts -/

/-- The gate is open exactly if the first `init` turned collection on. -/
theorem Lived.isEnabled_eq {as : List Act} {c : Collector} (h : Lived as c) :
    c.gate.isEnabled = isOpen as := by
  rw [h.gate, isOpen]
  cases hfirst : firstInit? as with
  | none =>
    rw [(h.uninitialized hfirst).2]
    rfl
  | some p => exact congrArg Settings.enabled (h.initialized p.1 p.2 hfirst).1

/-- An act that **sets counters to zero** does so with all of them. -/
theorem Act.tally_enact_of_zeroes {as : List Act} {c : Collector} {a : Act} (h : Lived as c)
    (ha : Zeroes as a) : (c.enact a).tally = .zero := by
  cases a with
  | init s =>
    have hopen : s.gate.isEnabled = true := ha.2
    rw [Collector.enact, if_pos (h.phase_eq_uninitialized_iff.mpr ha.1), Collector.started,
      if_pos hopen]
  | clear => rfl
  | cleanup | count us | other => exact ha.elim

/-- An act that does not set counters to zero and is no update **leaves all counters**. -/
theorem Act.tally_enact_of_not_zeroes {as : List Act} {c : Collector} {a : Act} (h : Lived as c)
    (ha : ¬Zeroes as a) (hcount : ∀ us, a ≠ .count us) : (c.enact a).tally = c.tally := by
  cases a with
  | init s =>
    rw [Collector.enact]
    split
    · rename_i hphase
      have hopen : ¬s.gate.isEnabled = true := fun hs =>
        ha ⟨h.phase_eq_uninitialized_iff.mp hphase, hs⟩
      rw [Collector.started, if_neg hopen]
    · rfl
  | cleanup =>
    rw [Collector.enact]
    split <;> rfl
  | clear => exact absurd trivial ha
  | count us => exact absurd rfl (hcount us)
  | other => rfl

/-- **One act** adds what it contributes, unless it sets counters to zero. -/
theorem Act.toNat_get_enact {as : List Act} {c : Collector} {a : Act} (h : Lived as c)
    (ha : ¬Zeroes as a) (k : Counter) :
    ((c.enact a).tally.get k).toNat =
      ((c.tally.get k).toNat + a.contribution (isOpen as) k) % 2 ^ 64 := by
  by_cases hcount : ∃ us, a = .count us
  · obtain ⟨us, rfl⟩ := hcount
    rw [Collector.enact, Tally.toNat_get_apply, Update.sum_flatMap_additions, h.isEnabled_eq]
    rfl
  · rw [not_exists] at hcount
    have hzero : a.contribution (isOpen as) k = 0 := by
      cases a with
      | count us => exact absurd rfl (hcount us)
      | init s | cleanup | clear | other => rfl
    rw [Act.tally_enact_of_not_zeroes h ha hcount, hzero, Nat.add_zero,
      Nat.mod_eq_of_lt (c.tally.get k).toNat_lt]

/-! ### Sums -/

/-- An act more changes nothing at the places before it. -/
theorem zeroesAt_append_iff {as : List Act} {a : Act} {i : Nat} (hi : i < as.length) :
    ZeroesAt (as ++ [a]) i ↔ ZeroesAt as i := by
  rw [ZeroesAt, ZeroesAt, List.getElem?_append_left hi, List.take_append_of_le_length hi.le]

/-- The act at the last place. -/
theorem zeroesAt_length_iff {as : List Act} {a : Act} :
    ZeroesAt (as ++ [a]) as.length ↔ Zeroes as a := by
  rw [ZeroesAt, List.getElem?_concat_length, List.take_left]
  simp only [Option.some.injEq, exists_eq_left']

/-- There is no act behind the last. -/
theorem not_zeroesAt {as : List Act} {i : Nat} (hi : as.length ≤ i) : ¬ZeroesAt as i := by
  rintro ⟨a, ha, -⟩
  rw [List.getElem?_eq_none hi] at ha
  cases ha

/-- An act more changes no contribution before it. -/
theorem contributionAt_append {as : List Act} {a : Act} {k : Counter} {i : Nat}
    (hi : i < as.length) : contributionAt (as ++ [a]) k i = contributionAt as k i := by
  rw [contributionAt, contributionAt, List.getElem?_append_left hi,
    List.take_append_of_le_length hi.le]

/-- What the act at the last place contributes. -/
theorem contributionAt_length (as : List Act) (a : Act) (k : Counter) :
    contributionAt (as ++ [a]) k as.length = a.contribution (isOpen as) k := by
  rw [contributionAt, List.getElem?_concat_length, List.take_left]

/-- An act more adds its contribution to the sum. -/
theorem sum_contributionAt_append {as : List Act} {m : Nat} (hm : m ≤ as.length) (a : Act)
    (k : Counter) :
    ∑ i ∈ Finset.Ico m (as ++ [a]).length, contributionAt (as ++ [a]) k i =
      (∑ i ∈ Finset.Ico m as.length, contributionAt as k i) +
        a.contribution (isOpen as) k := by
  rw [List.length_append, List.length_singleton, Finset.sum_Ico_succ_top hm,
    contributionAt_length]
  congr 1
  exact Finset.sum_congr rfl fun i hi => contributionAt_append (Finset.mem_Ico.mp hi).2

namespace Counted

/-- Counters start from zero. -/
theorem new : Counted [] Collector.new.tally := by
  refine ⟨0, Nat.le_refl 0, .inl rfl, fun i hi => not_zeroesAt hi, fun k => ?_⟩
  rw [List.length_nil, Finset.Ico_self, Finset.sum_empty]
  exact congrArg UInt64.toNat (Tally.get_zero k)

/-- **One act**: the sum starts anew if the act sets counters to zero, and else grows by what the
act contributes. -/
theorem enact {as : List Act} {c : Collector} (hl : Lived as c) (h : Counted as c.tally) (a : Act) :
    Counted (as ++ [a]) (c.enact a).tally := by
  have hlength : (as ++ [a]).length = as.length + 1 := List.length_append
  by_cases ha : Zeroes as a
  · refine ⟨as.length + 1, hlength.ge, .inr ?_, fun i hi => not_zeroesAt (hlength ▸ hi),
      fun k => ?_⟩
    · rw [Nat.add_sub_cancel]
      exact zeroesAt_length_iff.mpr ha
    · rw [hlength, Finset.Ico_self, Finset.sum_empty, Act.tally_enact_of_zeroes hl ha]
      exact congrArg UInt64.toNat (Tally.get_zero k)
  · obtain ⟨m, hm, hlast, hno, hsum⟩ := h
    refine ⟨m, hlength ▸ Nat.le_succ_of_le hm, ?_, fun i hi => ?_, fun k => ?_⟩
    · rcases hlast with hlast | hlast
      · exact .inl hlast
      · rcases Nat.lt_or_ge (m - 1) as.length with hlt | hge
        · exact .inr ((zeroesAt_append_iff hlt).mpr hlast)
        · exact absurd hlast (not_zeroesAt hge)
    · rcases Nat.lt_trichotomy i as.length with hlt | rfl | hgt
      · rw [zeroesAt_append_iff hlt]
        exact hno i hi
      · rw [zeroesAt_length_iff]
        exact ha
      · exact not_zeroesAt (by omega)
    · rw [Act.toNat_get_enact hl ha, sum_contributionAt_append hm, hsum, Nat.mod_add_mod]

/-- **Acts** leave the sums of their contributions. -/
theorem foldl {as : List Act} {c : Collector} (hl : Lived as c) (h : Counted as c.tally)
    (bs : List Act) : Counted (as ++ bs) (bs.foldl Collector.enact c).tally := by
  induction bs generalizing as c with
  | nil =>
    rw [List.append_nil]
    exact h
  | cons b bs ih =>
    rw [List.append_cons]
    exact ih (hl.enact b) (h.enact hl b)

/-- **A run** from the start leaves the sums of its contributions. -/
theorem run (host : Host) (ops : List Operation) :
    Counted (Collector.new.acts host ops) (Collector.new.run host ops).1.tally := by
  rw [Collector.run_eq_foldl]
  exact new.foldl Lived.new (Collector.new.acts host ops)

end Counted

/-! ### Recorders -/

namespace Recorder

/-- The **events that one counter counts**, as the names of recorders have them. -/
def singleEvents : List (String × Counter) :=
  [("ray_box_test", .boxTests), ("ray_box_hit", .boxHits), ("ray_box_miss", .boxMisses),
    ("ray_triangle_test", .triangleTests), ("ray_triangle_hit", .triangleHits),
    ("ray_triangle_miss", .triangleMisses), ("bvh_node_visited", .nodes),
    ("leaf_node_visited", .leafNodes), ("inner_node_visited", .innerNodes),
    ("ray_traced", .rays), ("ray_with_hit", .raysHit), ("ray_without_hit", .raysMissed)]

/-- A **recorder of outcomes**: its name, and the counters of all its events, of those with the flag
set, and of the others. -/
structure OutcomeRecorder where
  name : String
  total : Counter
  set : Counter
  unset : Counter

/-- The recorders of outcomes. -/
def outcomeRecorders : List OutcomeRecorder :=
  [⟨"record_box_test", .boxTests, .boxHits, .boxMisses⟩,
    ⟨"record_triangle_test", .triangleTests, .triangleHits, .triangleMisses⟩,
    ⟨"record_node_visit", .nodes, .leafNodes, .innerNodes⟩,
    ⟨"record_ray", .rays, .raysHit, .raysMissed⟩]

/-- **What recorders contribute**: those of single events to the counter that their name says, one
raw and one behind the gate, and those of outcomes to the counter of all their events and to the one
that their flag chooses. -/
structure CountAsNamed : Prop where
  raw : ∀ e ∈ singleEvents, ∃ u, ofName? ("increment_" ++ e.1) = some u ∧
    ∀ isOpen k, u.contribution isOpen k = if e.2 = k then 1 else 0
  gated : ∀ e ∈ singleEvents, ∃ u, ofName? ("record_" ++ e.1) = some u ∧
    ∀ isOpen k, u.contribution isOpen k = if isOpen = true ∧ e.2 = k then 1 else 0
  outcome : ∀ r ∈ outcomeRecorders, ∀ flag, ∃ u, ofCategoryName? r.name flag = some u ∧
    ∀ isOpen k, u.contribution isOpen k =
      if isOpen = true then
        (if r.total = k then 1 else 0) + (if (if flag then r.set else r.unset) = k then 1 else 0)
      else 0

/-- The names of events are those of the counters that count them. -/
theorem eq_event_of_mem {e : String × Counter} (he : e ∈ singleEvents) : e.1 = e.2.event := by
  simp only [singleEvents, List.mem_cons, List.not_mem_nil, or_false] at he
  rcases he with rfl | rfl | rfl | rfl | rfl | rfl | rfl | rfl | rfl | rfl | rfl | rfl <;> rfl

/-- Each recorder of outcomes is that of a category, and counts its counters. -/
theorem exists_category_of_mem {r : OutcomeRecorder} (hr : r ∈ outcomeRecorders) :
    ∃ g : Category, r = ⟨categoryName g, g.total, g.first, g.second⟩ := by
  simp only [outcomeRecorders, List.mem_cons, List.not_mem_nil, or_false] at hr
  rcases hr with rfl | rfl | rfl | rfl
  · exact ⟨.rayBox, rfl⟩
  · exact ⟨.rayTriangle, rfl⟩
  · exact ⟨.traversal, rfl⟩
  · exact ⟨.ray, rfl⟩

/-- **Recorders count** what they are named for. -/
theorem countAsNamed : CountAsNamed where
  raw e he := by
    refine ⟨.increment e.2, ?_, fun isOpen k => rfl⟩
    rw [eq_event_of_mem he]
    exact ofName?_raw e.2
  gated e he := by
    refine ⟨.record (.single e.2), ?_, fun isOpen k => rfl⟩
    rw [eq_event_of_mem he]
    exact ofName?_gated e.2
  outcome r hr flag := by
    obtain ⟨g, rfl⟩ := exists_category_of_mem hr
    exact ⟨_, ofCategoryName?_name g flag, fun isOpen k => rfl⟩

end Recorder

namespace Collector

/-- **The counters of a collector.** At every point of every run a counter holds what was
contributed to it since the last act that set all counters to zero, modulo `2 ^ 64`. The gate is
open if the first `init` turned collection on, and what neither updates counters nor sets them to
zero leaves them all. Recorders contribute to the counters for which they are named. -/
theorem counters_run (h : Host) (ops : List Operation) :
    (∃ m ≤ ops.length,
      (m = 0 ∨ ZeroesAt (new.acts h ops) (m - 1)) ∧
        (∀ i, m ≤ i → ¬ZeroesAt (new.acts h ops) i) ∧
          ∀ k, ((new.run h ops).1.tally.get k).toNat =
            (∑ i ∈ Finset.Ico m ops.length,
              contributionAt (new.acts h ops) k i) % 2 ^ 64) ∧
      (new.run h ops).1.gate.isEnabled = isOpen (new.acts h ops) ∧
      (∀ op, ¬Zeroes (new.acts h ops) (op.act (new.run h ops).2) →
        (∀ us, op.act (new.run h ops).2 ≠ .count us) →
          ((new.run h ops).1.perform (new.run h ops).2 op).2.1.tally =
            (new.run h ops).1.tally) ∧
      Recorder.CountAsNamed := by
  have hlived := Lived.run h ops
  have hcounted := Counted.run h ops
  rw [Counted, length_acts] at hcounted
  refine ⟨hcounted, hlived.isEnabled_eq, fun op hzeroes hcount => ?_, Recorder.countAsNamed⟩
  rw [perform_eq_enact]
  exact Act.tally_enact_of_not_zeroes hlived hzeroes hcount

end Collector

end RayTally
