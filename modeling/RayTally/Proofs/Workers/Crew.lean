import Mathlib.Algebra.GroupWithZero.Nat
import Mathlib.Data.List.Basic
import RayTally.Operation

/-!
# Crews

Several workers share one collector and take turns in any order. In a turn a worker starts on its
next update, makes one atomic addition of the update it is at, or is through with that update. A
schedule says who takes the turns, so whatever a schedule can do, workers at the same time can do,
and an event of a category can be left between its two additions for as long as the schedule likes.

## Main results

* `Crew.turn_cases`: what a turn can do.
* `Crew.collector_run`: a run leaves the additions that were made, in the order of the schedule.
* `Crew.interleaving_made`: if all workers are through, these additions interleave those of the
  scripts.
* `Crew.exists_through`: whatever the schedule was, the workers can get through their scripts.
-/

namespace RayTally

/-- The collector after additions. -/
def Collector.make (c : Collector) (as : List Addition) : Collector :=
  { c with tally := c.tally.apply as }

/-- A **worker**: the update it is at, with the number of additions of it that are made, and the
updates to come. -/
structure Worker where
  current : Option (Update × Nat)
  script : Script
  deriving DecidableEq, Repr

namespace Worker

/-- A worker that is about to start on its script. -/
def ready (s : Script) : Worker := ⟨none, s⟩

/-- A worker that has nothing left to do. -/
def Through (w : Worker) : Prop := w.current = none ∧ w.script = []

instance (w : Worker) : Decidable w.Through := inferInstanceAs (Decidable (_ ∧ _))

/-- One **turn of a worker** behind a gate: the addition that it makes, if it makes one, and the
worker afterwards. -/
def turn (g : Gate) (w : Worker) : Option Addition × Worker :=
  match w.current with
  | some (u, n) =>
    match (u.additions g)[n]? with
    | some a => (some a, ⟨some (u, n + 1), w.script⟩)
    | none => (none, ⟨none, w.script⟩)
  | none =>
    match w.script with
    | [] => (none, w)
    | u :: s => (none, ⟨some (u, 0), s⟩)

/-- The additions that a worker has still to make. -/
def ahead (g : Gate) (w : Worker) : List Addition :=
  match w.current with
  | some (u, n) => (u.additions g).drop n ++ w.script.additions g
  | none => w.script.additions g

/-- How many turns a worker still needs, at most. -/
def turnsLeft (g : Gate) (w : Worker) : Nat :=
  match w.current with
  | some (u, n) =>
    (u.additions g).length - n + 1 + (w.script.map fun v => (v.additions g).length + 2).sum
  | none => (w.script.map fun v => (v.additions g).length + 2).sum

/-- Who is through has no additions to make. -/
theorem ahead_of_through {w : Worker} (h : w.Through) (g : Gate) : w.ahead g = [] := by
  obtain ⟨hcurrent, hscript⟩ := h
  simp only [ahead, hcurrent, hscript]
  rfl

/-- **A turn makes the next addition**, or none: nothing is made twice and nothing is left out. -/
theorem ahead_turn (g : Gate) (w : Worker) :
    (w.turn g).1.toList ++ (w.turn g).2.ahead g = w.ahead g := by
  obtain ⟨current, script⟩ := w
  rcases current with - | ⟨u, n⟩
  · cases script with
    | nil => rfl
    | cons u s => rfl
  · simp only [turn, ahead]
    cases ha : (u.additions g)[n]? with
    | none =>
      have hdrop : (u.additions g).drop n = [] :=
        List.drop_eq_nil_of_le (List.getElem?_eq_none_iff.mp ha)
      rw [hdrop]
      rfl
    | some a =>
      obtain ⟨hn, rfl⟩ := List.getElem?_eq_some_iff.mp ha
      rw [List.drop_eq_getElem_cons hn]
      rfl

/-- A turn takes a worker forward, unless it is through. -/
theorem turnsLeft_turn {g : Gate} {w : Worker} (h : ¬w.Through) :
    (w.turn g).2.turnsLeft g < w.turnsLeft g := by
  obtain ⟨current, script⟩ := w
  rcases current with - | ⟨u, n⟩
  · cases script with
    | nil => exact absurd ⟨rfl, rfl⟩ h
    | cons u s =>
      simp only [turn, turnsLeft, List.map_cons, List.sum_cons]
      omega
  · simp only [turn, turnsLeft]
    cases ha : (u.additions g)[n]? with
    | none =>
      dsimp only
      omega
    | some a =>
      obtain ⟨hn, -⟩ := List.getElem?_eq_some_iff.mp ha
      dsimp only
      omega

end Worker

/-- **Workers that share a collector**. -/
structure Crew where
  collector : Collector
  workers : List Worker

namespace Crew

/-- A worker for each script, about to start. -/
def gather (c : Collector) (scripts : List Script) : Crew := ⟨c, scripts.map .ready⟩

/-- All workers are through with their scripts. -/
def Through (s : Crew) : Prop := ∀ w ∈ s.workers, w.Through

instance (s : Crew) : Decidable s.Through := inferInstanceAs (Decidable (∀ w ∈ _, _))

/-- The addition made in a turn, if one is made. -/
def madeIn (s : Crew) (i : Nat) : List Addition :=
  match s.workers[i]? with
  | some w => (w.turn s.collector.gate).1.toList
  | none => []

/-- **One turn** of the worker with a number; without such a worker nothing happens. -/
def turn (s : Crew) (i : Nat) : Crew :=
  match s.workers[i]? with
  | some w =>
    ⟨s.collector.make (s.madeIn i), s.workers.set i (w.turn s.collector.gate).2⟩
  | none => s

/-- The crew after the turns of a **schedule**, one after the other. -/
def run (s : Crew) (schedule : List Nat) : Crew := schedule.foldl turn s

/-- The additions made in the turns of a schedule, in the order in which they were made. -/
def made (s : Crew) : List Nat → List Addition
  | [] => []
  | i :: schedule => s.madeIn i ++ (s.turn i).made schedule

theorem run_cons (s : Crew) (i : Nat) (schedule : List Nat) :
    s.run (i :: schedule) = (s.turn i).run schedule := rfl

/-- A run is made of its parts. -/
theorem run_append (s : Crew) (schedule more : List Nat) :
    s.run (schedule ++ more) = (s.run schedule).run more :=
  List.foldl_append

/-! ### One turn -/

/-- **A turn** is one of a worker, or does nothing. -/
theorem turn_cases (s : Crew) (i : Nat) :
    s.workers[i]? = none ∧ s.turn i = s ∧ s.madeIn i = [] ∨
      ∃ before w after, s.workers[i]? = some w ∧ s.workers = before ++ w :: after ∧
        s.madeIn i = (w.turn s.collector.gate).1.toList ∧
          s.turn i = ⟨s.collector.make (s.madeIn i),
            before ++ (w.turn s.collector.gate).2 :: after⟩ := by
  cases hw : s.workers[i]? with
  | none =>
    left
    simp only [turn, madeIn, hw, and_self]
  | some w =>
    right
    obtain ⟨hi, rfl⟩ := List.getElem?_eq_some_iff.mp hw
    refine ⟨s.workers.take i, s.workers[i], s.workers.drop (i + 1), rfl, ?_, ?_, ?_⟩
    · rw [← List.drop_eq_getElem_cons hi, List.take_append_drop]
    · simp only [madeIn, hw]
    · simp only [turn, hw]
      rw [List.set_eq_take_append_cons_drop, if_pos hi]

/-- A turn adds what is made in it to the counters, and touches nothing else of the collector. -/
theorem collector_turn (s : Crew) (i : Nat) :
    (s.turn i).collector = s.collector.make (s.madeIn i) := by
  obtain ⟨-, hturn, hmade⟩ | ⟨before, w, after, -, -, -, hturn⟩ := s.turn_cases i
  · rw [hturn, hmade]
    rfl
  · rw [hturn]

/-- The gate is the same for all turns. -/
theorem gate_turn (s : Crew) (i : Nat) : (s.turn i).collector.gate = s.collector.gate := by
  rw [collector_turn]
  rfl

/-! ### Runs -/

/-- **A run leaves the additions** that were made in its turns. -/
theorem collector_run (s : Crew) (schedule : List Nat) :
    (s.run schedule).collector = s.collector.make (s.made schedule) := by
  induction schedule generalizing s with
  | nil => rfl
  | cons i schedule ih =>
    rw [run_cons, ih, collector_turn, made, Collector.make, Collector.make, Collector.make,
      Tally.apply_append]

/-- **What is made in a turn** is the first of what one worker has ahead of it. -/
theorem interleaving_turn {s : Crew} {i : Nat} {l : List Addition}
    (h : Interleaving ((s.turn i).workers.map (Worker.ahead s.collector.gate)) l) :
    Interleaving (s.workers.map (Worker.ahead s.collector.gate)) (s.madeIn i ++ l) := by
  obtain ⟨-, hturn, hmade⟩ | ⟨before, w, after, -, hworkers, hmade, hturn⟩ := s.turn_cases i
  · rw [hturn] at h
    rw [hmade]
    exact h
  · have hahead := w.ahead_turn s.collector.gate
    rw [hturn, List.map_append, List.map_cons] at h
    rw [hworkers, hmade, List.map_append, List.map_cons, ← hahead]
    cases (w.turn s.collector.gate).1 with
    | none => exact h
    | some a => exact .step h

/-- **The additions of a run interleave** what the workers had ahead of them, once all of them are
through. -/
theorem interleaving_made {s : Crew} {schedule : List Nat} (h : (s.run schedule).Through) :
    Interleaving (s.workers.map (Worker.ahead s.collector.gate)) (s.made schedule) := by
  induction schedule generalizing s with
  | nil =>
    refine .done fun l hl => ?_
    obtain ⟨w, hw, rfl⟩ := List.mem_map.mp hl
    exact Worker.ahead_of_through (h w hw) s.collector.gate
  | cons i schedule ih =>
    have hrest := ih h
    rw [gate_turn] at hrest
    exact interleaving_turn hrest

/-! ### Getting through -/

/-- How many turns a crew still needs, at most. -/
def turnsLeft (s : Crew) : Nat := (s.workers.map (Worker.turnsLeft s.collector.gate)).sum

/-- Whoever is not through can take a turn that takes the crew forward. -/
theorem exists_turn_lt {s : Crew} (h : ¬s.Through) : ∃ i, (s.turn i).turnsLeft < s.turnsLeft := by
  rw [Through, not_forall] at h
  obtain ⟨w, hw⟩ := h
  rw [Classical.not_imp] at hw
  obtain ⟨hmem, hbusy⟩ := hw
  obtain ⟨i, hi⟩ := List.mem_iff_getElem?.mp hmem
  refine ⟨i, ?_⟩
  obtain ⟨hnone, -⟩ | ⟨before, w', after, hw', hworkers, -, hturn⟩ := s.turn_cases i
  · rw [hi] at hnone
    cases hnone
  · obtain rfl : w = w' := Option.some.inj (hi.symm.trans hw')
    have hforward := Worker.turnsLeft_turn (g := s.collector.gate) hbusy
    rw [turnsLeft, turnsLeft, gate_turn, hturn, hworkers]
    simp only [List.map_append, List.map_cons, List.sum_append, List.sum_cons]
    omega

/-- **No schedule leads astray**: whatever it was, it can be continued until all workers are
through. -/
theorem exists_through (s : Crew) : ∃ more, (s.run more).Through := by
  induction hn : s.turnsLeft using Nat.strongRecOn generalizing s with
  | _ n ih =>
    by_cases hs : s.Through
    · exact ⟨[], hs⟩
    · obtain ⟨i, hi⟩ := exists_turn_lt hs
      obtain ⟨more, hmore⟩ := ih _ (hn ▸ hi) (s.turn i) rfl
      exact ⟨i :: more, hmore⟩

end Crew

end RayTally
