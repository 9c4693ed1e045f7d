import Mathlib.Data.Nat.ModEq
import RayTally.Proofs.Workers.Sums
import RayTally.Report.Balance

/-!
# Balance while workers run

An event of a category is counted by two additions, first to the total and then to its outcome.
While workers run, the total is therefore ahead of its outcomes by the events that are in flight,
and this is what every turn preserves. Once all workers are through nothing is in flight, but
counters have wrapped around, and the report adds the outcomes over the naturals: it finds a
category out of balance exactly if the two outcomes no longer fit into one counter together.

## Main results

* `Worker.RecordsOutcomes.contribution_turn`: what one turn does to total, outcomes and flight.
* `Crew.sum_made_total`: the total is ahead of the outcomes by what is in flight, at every point.
* `Tally.imbalanceText_mem_issues_iff`: a category has its line in the report if it is out of
  balance.
* `Crew.balance_run`: the whole contract.
-/

namespace RayTally

/-! ### The lines of the report -/

/-- Lines of different categories differ. -/
theorem Tally.imbalanceText_injective (t : Tally) : Function.Injective t.imbalanceText := by
  intro k k' h
  have hlabel : (k.label.toList ++ ": ".toList).take 5 =
      (k'.label.toList ++ ": ".toList).take 5 := by
    have htake (k : Category) : (t.imbalanceText k).toList.take 5 =
        (k.label.toList ++ ": ".toList).take 5 := by
      simp only [imbalanceText, String.toList_append, List.append_assoc]
      cases k <;> rfl
    rw [← htake, ← htake, h]
  cases k <;> cases k' <;> first | rfl | exact absurd hlabel (by decide)

/-- **A category has its line in the report** exactly if it is out of balance. -/
theorem Tally.imbalanceText_mem_issues_iff {t : Tally} {k : Category} :
    t.imbalanceText k ∈ t.issues ↔ ¬t.Balanced k := by
  rw [issues, List.mem_map_of_injective t.imbalanceText_injective, mem_imbalances]

/-- The report is empty if every category is balanced. -/
theorem Tally.issues_eq_nil {t : Tally} (h : ∀ k, t.Balanced k) : t.issues = [] := by
  rw [issues, List.map_eq_nil_iff, List.eq_nil_iff_forall_not_mem]
  exact fun k hk => mem_imbalances.mp hk (h k)

/-! ### Contributions of an event -/

/-- What the first addition of an event contributes. -/
theorem Category.contribution_total (k k' : Category) :
    (⟨k'.total, 1⟩ : Addition).contribution k.total = (if k' = k then 1 else 0) ∧
      (⟨k'.total, 1⟩ : Addition).contribution k.first = 0 ∧
        (⟨k'.total, 1⟩ : Addition).contribution k.second = 0 := by
  cases k <;> cases k' <;> exact ⟨rfl, rfl, rfl⟩

/-- What the second addition of an event contributes. -/
theorem Category.contribution_outcome (k k' : Category) (first : Bool) :
    (⟨k'.outcome first, 1⟩ : Addition).contribution k.total = 0 ∧
      (⟨k'.outcome first, 1⟩ : Addition).contribution k.first +
        (⟨k'.outcome first, 1⟩ : Addition).contribution k.second = if k' = k then 1 else 0 := by
  cases first <;> cases k <;> cases k' <;> exact ⟨rfl, rfl⟩

/-- What an event contributes to a category, behind an open gate. -/
theorem Update.contribution_outcome (k : Category) (o : Category × Bool) :
    (Update.record (.outcome o.1 o.2)).contribution true k.first =
        (if o == (k, true) then 1 else 0) ∧
      (Update.record (.outcome o.1 o.2)).contribution true k.second =
          (if o == (k, false) then 1 else 0) ∧
        (Update.record (.outcome o.1 o.2)).contribution true k.total =
          (if o == (k, true) then 1 else 0) + if o == (k, false) then 1 else 0 := by
  obtain ⟨k', first⟩ := o
  cases first <;> cases k <;> cases k' <;> exact ⟨rfl, rfl, rfl⟩

/-- A script that **records events with their outcomes** and does nothing else. -/
def Script.ofOutcomes (os : List (Category × Bool)) : Script :=
  os.map fun o => .record (.outcome o.1 o.2)

/-- What such a script contributes to the counters of a category are the numbers of its events. -/
theorem Script.sum_contribution_ofOutcomes (os : List (Category × Bool)) (k : Category) :
    ((ofOutcomes os).map (Update.contribution true k.first)).sum = os.count (k, true) ∧
      ((ofOutcomes os).map (Update.contribution true k.second)).sum = os.count (k, false) ∧
        ((ofOutcomes os).map (Update.contribution true k.total)).sum =
          os.count (k, true) + os.count (k, false) := by
  induction os with
  | nil => exact ⟨rfl, rfl, rfl⟩
  | cons o os ih =>
    obtain ⟨hfirst, hsecond, htotal⟩ := ih
    obtain ⟨hfirst', hsecond', htotal'⟩ := Update.contribution_outcome k o
    have hcons : ofOutcomes (o :: os) = .record (.outcome o.1 o.2) :: ofOutcomes os := rfl
    rw [hcons]
    simp only [List.map_cons, List.sum_cons, List.count_cons, hfirst, hsecond, htotal, hfirst',
      hsecond', htotal']
    omega

/-! ### Events in flight -/

namespace Worker

/-- The worker is **between the two additions** of an event of a category. -/
def InFlight (k : Category) (w : Worker) : Prop :=
  w.current = some (.record (.outcome k true), 1) ∨ w.current = some (.record (.outcome k false), 1)

instance (k : Category) (w : Worker) : Decidable (w.InFlight k) :=
  inferInstanceAs (Decidable (_ ∨ _))

/-- The worker records events with their outcomes and does nothing else. -/
structure RecordsOutcomes (w : Worker) : Prop where
  current : ∀ u n, w.current = some (u, n) → ∃ k first, u = .record (.outcome k first)
  script : ∀ u ∈ w.script, ∃ k first, u = .record (.outcome k first)

/-- A worker that has made so many additions of an event is in flight if it has made one. -/
theorem inFlight_mk_iff {k k' : Category} {first : Bool} {n : Nat} {s : Script} :
    (Worker.mk (some (.record (.outcome k' first), n)) s).InFlight k ↔ k' = k ∧ n = 1 := by
  cases first <;> simp [InFlight]

namespace RecordsOutcomes

variable {w : Worker} {g : Gate}

/-- A worker that starts on a script of events records events. -/
theorem ready (os : List (Category × Bool)) :
    (Worker.ready (Script.ofOutcomes os)).RecordsOutcomes where
  current _ _ h := by cases h
  script u hu := by
    obtain ⟨o, -, rfl⟩ := List.mem_map.mp hu
    exact ⟨o.1, o.2, rfl⟩

/-- It still does after a turn. -/
theorem turn (h : w.RecordsOutcomes) (g : Gate) : (w.turn g).2.RecordsOutcomes := by
  obtain ⟨current, script⟩ := w
  rcases current with - | ⟨u, n⟩
  · cases script with
    | nil => exact h
    | cons u s =>
      obtain ⟨hu, hs⟩ := List.forall_mem_cons.mp h.script
      refine ⟨fun v n hv => ?_, hs⟩
      cases hv
      exact hu
  · have hu := h.current u n rfl
    simp only [Worker.turn]
    cases (u.additions g)[n]? with
    | none => exact ⟨fun v m hv => (by cases hv), h.script⟩
    | some a =>
      refine ⟨fun v m hv => ?_, h.script⟩
      cases hv
      exact hu

/-- **One turn**: the first addition of an event takes the event into flight and adds to the total,
the second takes it out of flight and adds to an outcome, and all else does neither. -/
theorem contribution_turn (h : w.RecordsOutcomes) (hg : g.isEnabled = true) (k : Category) :
    ((w.turn g).1.toList.map (Addition.contribution k.total)).sum +
        (if w.InFlight k then 1 else 0) =
      ((w.turn g).1.toList.map (Addition.contribution k.first)).sum +
        ((w.turn g).1.toList.map (Addition.contribution k.second)).sum +
          if (w.turn g).2.InFlight k then 1 else 0 := by
  have hidle (s : Script) : ¬(Worker.mk none s).InFlight k := by simp [InFlight]
  obtain ⟨current, script⟩ := w
  rcases current with - | ⟨u, n⟩
  · cases script with
    | nil => rfl
    | cons u s =>
      obtain ⟨k', first, rfl⟩ := h.script u List.mem_cons_self
      simp only [Worker.turn, if_neg (hidle _), inFlight_mk_iff]
      simp
  · obtain ⟨k', first, rfl⟩ := h.current u n rfl
    have hadditions : (Update.record (.outcome k' first)).additions g =
        [⟨k'.total, 1⟩, ⟨k'.outcome first, 1⟩] := by
      rw [Update.additions, if_pos hg, Event.additions]
    simp only [Worker.turn, hadditions, inFlight_mk_iff]
    rcases n with - | - | n
    · obtain ⟨htotal, hfirst, hsecond⟩ := k.contribution_total k'
      simp [inFlight_mk_iff, htotal, hfirst, hsecond]
    · obtain ⟨htotal, houtcome⟩ := k.contribution_outcome k' first
      simp [inFlight_mk_iff, htotal, houtcome]
    · simp [hidle]

end RecordsOutcomes

end Worker

namespace Crew

/-- How many events of a category are **in flight**. -/
def inFlight (s : Crew) (k : Category) : Nat := s.workers.countP fun w => w.InFlight k

/-- All workers record events with their outcomes and do nothing else. -/
def RecordsOutcomes (s : Crew) : Prop := ∀ w ∈ s.workers, w.RecordsOutcomes

variable {s : Crew}

/-- Nothing is in flight before workers start. -/
theorem inFlight_gather (c : Collector) (scripts : List Script) (k : Category) :
    (gather c scripts).inFlight k = 0 := by
  rw [inFlight, List.countP_eq_zero]
  intro w hw
  obtain ⟨script, -, rfl⟩ := List.mem_map.mp hw
  simp [Worker.InFlight, Worker.ready]

/-- A turn leaves workers that record events. -/
theorem RecordsOutcomes.turn (h : s.RecordsOutcomes) (i : Nat) : (s.turn i).RecordsOutcomes := by
  obtain ⟨-, hturn, -⟩ | ⟨before, w, after, -, hworkers, -, hturn⟩ := s.turn_cases i
  · rw [hturn]
    exact h
  · rw [RecordsOutcomes, hworkers, List.forall_mem_append, List.forall_mem_cons] at h
    obtain ⟨hbefore, hw, hafter⟩ := h
    rw [hturn, RecordsOutcomes, List.forall_mem_append, List.forall_mem_cons]
    exact ⟨hbefore, hw.turn s.collector.gate, hafter⟩

/-- **One turn** of a crew moves the total, the outcomes and what is in flight together. -/
theorem sum_madeIn_total (h : s.RecordsOutcomes) (hg : s.collector.gate.isEnabled = true) (i : Nat)
    (k : Category) :
    ((s.madeIn i).map (Addition.contribution k.total)).sum + s.inFlight k =
      ((s.madeIn i).map (Addition.contribution k.first)).sum +
        ((s.madeIn i).map (Addition.contribution k.second)).sum + (s.turn i).inFlight k := by
  obtain ⟨-, hturn, hmade⟩ | ⟨before, w, after, -, hworkers, hmade, hturn⟩ := s.turn_cases i
  · rw [hturn, hmade]
    rfl
  · have hw : w.RecordsOutcomes := h w (hworkers ▸ List.mem_append_right _ List.mem_cons_self)
    have hone := hw.contribution_turn hg k
    simp only [hturn, hmade, inFlight, hworkers, List.countP_append, List.countP_cons,
      decide_eq_true_eq]
    omega

/-- **At every point of a run** the total is ahead of the outcomes by what is in flight. -/
theorem sum_made_total (h : s.RecordsOutcomes) (hg : s.collector.gate.isEnabled = true)
    (schedule : List Nat) (k : Category) :
    ((s.made schedule).map (Addition.contribution k.total)).sum + s.inFlight k =
      ((s.made schedule).map (Addition.contribution k.first)).sum +
        ((s.made schedule).map (Addition.contribution k.second)).sum +
          (s.run schedule).inFlight k := by
  induction schedule generalizing s with
  | nil => rfl
  | cons i schedule ih =>
    have hone := sum_madeIn_total h hg i k
    have hrest := ih (h.turn i) (by rw [gate_turn]; exact hg)
    simp only [made, run_cons, List.map_append, List.sum_append]
    omega

/-- What workers leave who recorded events with their outcomes, once they are through: the number of
events with each outcome, modulo `2 ^ 64`. -/
theorem toNat_get_ofOutcomes {c : Collector} (hgate : c.gate.isEnabled = true)
    (hzero : c.tally = .zero) {outcomes : List (List (Category × Bool))} {schedule : List Nat}
    (h : ((gather c (outcomes.map .ofOutcomes)).run schedule).Through) (k : Category) :
    ((((gather c (outcomes.map .ofOutcomes)).run schedule).collector.tally.get k.first).toNat =
        outcomes.flatten.count (k, true) % 2 ^ 64) ∧
      (((gather c (outcomes.map .ofOutcomes)).run schedule).collector.tally.get k.second).toNat =
          outcomes.flatten.count (k, false) % 2 ^ 64 ∧
        (((gather c (outcomes.map .ofOutcomes)).run schedule).collector.tally.get k.total).toNat =
          (outcomes.flatten.count (k, true) + outcomes.flatten.count (k, false)) % 2 ^ 64 := by
  have hflatten : (outcomes.map Script.ofOutcomes).flatten = Script.ofOutcomes outcomes.flatten :=
    List.map_flatten.symm
  obtain ⟨hfirst, hsecond, htotal⟩ := Script.sum_contribution_ofOutcomes outcomes.flatten k
  have hget (j : Counter) : (c.tally.get j).toNat = 0 := by
    rw [hzero, Tally.get_zero]
    rfl
  simp only [collector_run_gather h, Collector.toNat_get_work, hflatten, hgate, hget, hfirst,
    hsecond, htotal, Nat.zero_add, and_self]

/-- **Categories while workers run.** Let workers that share an open gate and counters that are zero
record events with their outcomes. At every point of every schedule the total of a category is,
modulo `2 ^ 64`, the sum of its outcomes and of what is in flight. Once all workers are through, a
category has its line in the report exactly if its outcomes, each wrapped around, are `2 ^ 64` or
more together; so there is no line as long as no category had that many events. -/
theorem balance_run {c : Collector} (hgate : c.gate.isEnabled = true) (hzero : c.tally = .zero)
    (outcomes : List (List (Category × Bool))) (schedule : List Nat) :
    let s := (gather c (outcomes.map .ofOutcomes)).run schedule
    let t := s.collector.tally
    let events := outcomes.flatten
    (∀ k, (t.get k.total).toNat ≡
        (t.get k.first).toNat + (t.get k.second).toNat + s.inFlight k [MOD 2 ^ 64]) ∧
      (s.Through →
        (∀ k, t.imbalanceText k ∈ t.issues ↔
          2 ^ 64 ≤ events.count (k, true) % 2 ^ 64 + events.count (k, false) % 2 ^ 64) ∧
        ((∀ k, events.count (k, true) + events.count (k, false) < 2 ^ 64) → t.issues = [])) := by
  intro s t events
  refine ⟨fun k => ?_, fun h => ?_⟩
  · have hrecords : (gather c (outcomes.map .ofOutcomes)).RecordsOutcomes := by
      intro w hw
      simp only [gather, List.map_map] at hw
      obtain ⟨os, -, rfl⟩ := List.mem_map.mp hw
      exact .ready os
    let made := (gather c (outcomes.map .ofOutcomes)).made schedule
    have hmade : (made.map (Addition.contribution k.total)).sum =
        (made.map (Addition.contribution k.first)).sum +
          (made.map (Addition.contribution k.second)).sum + s.inFlight k := by
      have hrun := sum_made_total hrecords hgate schedule k
      rw [inFlight_gather, Nat.add_zero] at hrun
      exact hrun
    have hget (j : Counter) :
        (t.get j).toNat = (made.map (Addition.contribution j)).sum % 2 ^ 64 := by
      have hzero' : (gather c (outcomes.map .ofOutcomes)).collector.tally = .zero := hzero
      simp only [t, s, made, collector_run, Collector.make, Tally.toNat_get_apply, hzero',
        Tally.get_zero]
      rw [UInt64.toNat_zero, Nat.zero_add]
    rw [hget, hget, hget, hmade, Nat.ModEq]
    omega
  · have hbalanced (k : Category) : t.Balanced k ↔
        events.count (k, true) % 2 ^ 64 + events.count (k, false) % 2 ^ 64 < 2 ^ 64 := by
      obtain ⟨hfirst, hsecond, htotal⟩ :
          (t.get k.first).toNat = events.count (k, true) % 2 ^ 64 ∧
            (t.get k.second).toNat = events.count (k, false) % 2 ^ 64 ∧
              (t.get k.total).toNat =
                (events.count (k, true) + events.count (k, false)) % 2 ^ 64 :=
        toNat_get_ofOutcomes hgate hzero h k
      rw [Tally.Balanced, hfirst, hsecond, htotal]
      omega
    refine ⟨fun k => ?_, fun hfew => Tally.issues_eq_nil fun k => (hbalanced k).mpr ?_⟩
    · rw [Tally.imbalanceText_mem_issues_iff, hbalanced, Nat.not_lt]
    · have := hfew k
      omega

/-- A collector that is made with an open gate. -/
def opened : Collector := { Collector.new with gate := .enabled }

/-- A worker that has a hit to count, and one that has a miss. -/
def hitAndMiss : List (List (Category × Bool)) := [[(.rayBox, true)], [(.rayBox, false)]]

/-- Two workers, of which one is between the additions of a hit while the other has counted a miss:
the total is one ahead. Once both are through, nothing is out of balance. -/
theorem balance_run_hit_in_flight :
    (((gather opened (hitAndMiss.map .ofOutcomes)).run
        [0, 0, 1, 1, 1]).collector.tally.get .boxTests).toNat ≡
      (((gather opened (hitAndMiss.map .ofOutcomes)).run
          [0, 0, 1, 1, 1]).collector.tally.get .boxHits).toNat +
        (((gather opened (hitAndMiss.map .ofOutcomes)).run
          [0, 0, 1, 1, 1]).collector.tally.get .boxMisses).toNat + 1 [MOD 2 ^ 64] ∧
      ((gather opened (hitAndMiss.map .ofOutcomes)).run
        [0, 0, 1, 1, 1, 0, 1, 0]).collector.tally.issues = [] := by
  obtain ⟨hflight, -⟩ := balance_run (c := opened) rfl rfl hitAndMiss [0, 0, 1, 1, 1]
  obtain ⟨-, hthrough⟩ := balance_run (c := opened) rfl rfl hitAndMiss [0, 0, 1, 1, 1, 0, 1, 0]
  have hone :
      ((gather opened (hitAndMiss.map .ofOutcomes)).run [0, 0, 1, 1, 1]).inFlight .rayBox = 1 := by
    decide
  have hahead := hflight .rayBox
  rw [hone] at hahead
  have hfew (k : Category) :
      hitAndMiss.flatten.count (k, true) + hitAndMiss.flatten.count (k, false) < 2 ^ 64 := by
    cases k <;> decide
  obtain ⟨-, hempty⟩ := hthrough (by decide)
  exact ⟨hahead, hempty hfew⟩

end Crew

end RayTally
