import Mathlib.Algebra.BigOperators.Group.List.Basic
import RayTally.Proofs.Counting
import RayTally.Proofs.Workers.Crew

/-!
# No update is lost

Additions to counters commute, so the order in which workers make them leaves no trace: whatever the
schedule was, once all workers are through, the collector is as if the scripts had been run one
after the other by a single worker, and every counter has grown by what the scripts contribute to
it. For the same reason a worker may count in private and add up at once.

## Main results

* `Interleaving.perm`: an interleaving has the elements of its lists, each as often as they do.
* `Tally.apply_congr`: additions are told apart only by their sums.
* `Collector.run_update`: a single worker that runs a script.
* `Script.Batched.sum_contribution`: counting in private contributes the same.
* `Crew.collector_eq_work`: the whole contract.
-/

namespace RayTally

/-! ### Order does not matter -/

/-- **An interleaving** rearranges what is in its lists. -/
theorem Interleaving.perm {α : Type} {ls : List (List α)} {l : List α} (h : Interleaving ls l) :
    l.Perm ls.flatten := by
  induction h with
  | done hnil =>
    rw [List.flatten_eq_nil_iff.mpr hnil]
  | @step before after x xs l _ ih =>
    have hmove : (before ++ (x :: xs) :: after).flatten.Perm
        (x :: (before ++ xs :: after).flatten) := by
      rw [List.flatten_append, List.flatten_append, List.flatten_cons, List.flatten_cons,
        List.cons_append]
      exact List.perm_middle
    exact (ih.cons x).trans hmove.symm

/-- **Additions are told apart only by their sums.** -/
theorem Tally.apply_congr {as bs : List Addition}
    (h : ∀ k, (as.map (Addition.contribution k)).sum = (bs.map (Addition.contribution k)).sum)
    (t : Tally) : t.apply as = t.apply bs := by
  refine ext_get fun k => UInt64.toNat_inj.mp ?_
  rw [toNat_get_apply, toNat_get_apply, h k]

namespace Collector

variable {c : Collector}

/-- Additions in another order are the same to a collector. -/
theorem make_of_perm {as bs : List Addition} (h : as.Perm bs) : c.make as = c.make bs := by
  have hsum (k : Counter) :
      (as.map (Addition.contribution k)).sum = (bs.map (Addition.contribution k)).sum :=
    (h.map _).sum_eq
  rw [make, make, Tally.apply_congr hsum]

/-- Scripts one after the other, as additions. -/
theorem work_eq_make (c : Collector) (scripts : List Script) :
    c.work scripts = c.make (scripts.flatMap (Script.additions c.gate)) := rfl

/-- What scripts leave of a counter. -/
theorem toNat_get_work (c : Collector) (scripts : List Script) (k : Counter) :
    ((c.work scripts).tally.get k).toNat =
      ((c.tally.get k).toNat +
        (scripts.flatten.map (Update.contribution c.gate.isEnabled k)).sum) % 2 ^ 64 := by
  rw [work_eq_make, make, Tally.toNat_get_apply, Script.flatMap_additions,
    Update.sum_flatMap_additions]

/-- Scripts that contribute the same leave the same. -/
theorem work_congr {scripts scripts' : List Script}
    (h : ∀ k, (scripts.flatten.map (Update.contribution c.gate.isEnabled k)).sum =
      (scripts'.flatten.map (Update.contribution c.gate.isEnabled k)).sum) :
    c.work scripts = c.work scripts' := by
  have hsum (k : Counter) :
      ((scripts.flatMap (Script.additions c.gate)).map (Addition.contribution k)).sum =
        ((scripts'.flatMap (Script.additions c.gate)).map (Addition.contribution k)).sum := by
    rw [Script.flatMap_additions, Script.flatMap_additions, Update.sum_flatMap_additions,
      Update.sum_flatMap_additions, h k]
  rw [work_eq_make, work_eq_make, make, make, Tally.apply_congr hsum]

/-- **A single worker** that makes one update after the other leaves their additions. -/
theorem run_update (c : Collector) (h : Host) (us : List Update) :
    c.run h (us.map .update) = (c.make (us.flatMap (Update.additions c.gate)), h) := by
  induction us generalizing c with
  | nil => rfl
  | cons u us ih =>
    have hcons : c.run h ((u :: us).map .update) = (c.update u).run h (us.map .update) := rfl
    have hmake : (c.update u).make (us.flatMap (Update.additions c.gate)) =
        c.make (u.additions c.gate ++ us.flatMap (Update.additions c.gate)) := by
      rw [make, make, update, Tally.apply_append]
    rw [hcons, ih, List.flatMap_cons, ← hmake]
    rfl

end Collector

/-! ### Counting in private -/

/-- **Counting in private**: behind a gate, single counts of one counter are left out of a script,
wherever they stand in it, and one raw addition of their number is made somewhere instead. -/
def Script.Batched (g : Gate) (s s' : Script) : Prop :=
  ∃ (k : Counter) (n : UInt64) (singles rest : List Update),
    (∀ u ∈ singles, u.additions g = [⟨k, 1⟩]) ∧ singles.length = n.toNat ∧
      s.Perm (singles ++ rest) ∧ s'.Perm (.add ⟨k, n⟩ :: rest)

/-- Single counts contribute their number to their counter. -/
theorem Update.sum_contribution_singles {g : Gate} {k : Counter} {singles : List Update}
    (h : ∀ u ∈ singles, u.additions g = [⟨k, 1⟩]) (j : Counter) :
    (singles.map (contribution g.isEnabled j)).sum = if k = j then singles.length else 0 := by
  have hone (u : Update) (hu : u ∈ singles) :
      u.contribution g.isEnabled j = if k = j then 1 else 0 := by
    rw [← sum_additions, h u hu, List.map_singleton, List.sum_singleton, Addition.contribution]
    rfl
  rw [List.map_congr_left hone, List.map_const', List.sum_replicate]
  split
  · exact Nat.mul_one _
  · exact Nat.mul_zero _

/-- **Counting in private** contributes the same to every counter. -/
theorem Script.Batched.sum_contribution {g : Gate} {s s' : Script} (h : Batched g s s')
    (j : Counter) : (s'.map (Update.contribution g.isEnabled j)).sum =
      (s.map (Update.contribution g.isEnabled j)).sum := by
  obtain ⟨k, n, singles, rest, hsingles, hlength, hs, hs'⟩ := h
  rw [(hs.map _).sum_eq, (hs'.map _).sum_eq, List.map_append, List.sum_append, List.map_cons,
    List.sum_cons, Update.sum_contribution_singles hsingles, hlength]
  rfl

/-! ### Crews -/

namespace Crew

/-- **Every schedule** leaves what the scripts leave one after the other, once all workers are
through. -/
theorem collector_run_gather {c : Collector} {scripts : List Script} {schedule : List Nat}
    (h : ((gather c scripts).run schedule).Through) :
    ((gather c scripts).run schedule).collector = c.work scripts := by
  have hperm := (interleaving_made h).perm
  rw [collector_run, Collector.work_eq_make, List.flatMap_def]
  rw [gather, List.map_map] at hperm
  exact Collector.make_of_perm hperm

/-- **No update is lost, and none is made twice.** Whatever turns the workers took, they can get
through their scripts. Once they are, the collector is the one that a single worker leaves who runs
the scripts one after the other, in any order; each counter has grown by what all scripts contribute
to it, modulo `2 ^ 64`; and it would have been the same if a worker had added up single counts of a
counter and added them at once. -/
theorem collector_eq_work (c : Collector) (scripts : List Script) (schedule : List Nat) :
    (∃ more, ((gather c scripts).run (schedule ++ more)).Through) ∧
      (((gather c scripts).run schedule).Through →
        ((gather c scripts).run schedule).collector = c.work scripts ∧
        (∀ (order : List Script) (host : Host), order.Perm scripts →
          c.run host (order.flatten.map .update) =
            (((gather c scripts).run schedule).collector, host)) ∧
        (∀ k, (((gather c scripts).run schedule).collector.tally.get k).toNat =
          ((c.tally.get k).toNat +
            (scripts.flatten.map (Update.contribution c.gate.isEnabled k)).sum) % 2 ^ 64) ∧
        ∀ (before after : List Script) (s s' : Script) (schedule' : List Nat),
          scripts = before ++ s :: after → s.Batched c.gate s' →
            ((gather c (before ++ s' :: after)).run schedule').Through →
              ((gather c (before ++ s' :: after)).run schedule').collector =
                ((gather c scripts).run schedule).collector) := by
  constructor
  · obtain ⟨more, hmore⟩ := exists_through ((gather c scripts).run schedule)
    exact ⟨more, by rw [run_append]; exact hmore⟩
  · intro h
    rw [collector_run_gather h]
    refine ⟨rfl, fun order host horder => ?_, fun k => c.toNat_get_work scripts k, ?_⟩
    · have hperm := horder.flatMap_right (Script.additions c.gate)
      rw [Script.flatMap_additions] at hperm
      rw [Collector.run_update, Collector.work_eq_make, Collector.make_of_perm hperm]
    · rintro before after s s' schedule' rfl hbatched h'
      rw [collector_run_gather h']
      refine Collector.work_congr fun k => ?_
      simp only [List.flatten_append, List.flatten_cons, List.map_append, List.sum_append,
        hbatched.sum_contribution k]

/-- A collector with an open gate, in which one counter has its largest value. -/
def nearlyFull : Collector :=
  { Collector.new with gate := .enabled, tally := Tally.zero.set .boxHits 0xFFFFFFFFFFFFFFFF }

/-- A worker that counts a hit and then five that it counted in private, and one that counts a
miss. -/
def hitsAndMiss : List Script :=
  [[.record (.outcome .rayBox true), .add ⟨.boxHits, 5⟩], [.record (.outcome .rayBox false)]]

/-- The miss is counted between the two additions of the hit, and the counter of hits wraps
around. -/
theorem collector_eq_work_overlapping :
    ((gather nearlyFull hitsAndMiss).run [0, 0, 1, 1, 1, 0, 0, 1, 0, 0, 0]).Through ∧
      (((gather nearlyFull hitsAndMiss).run
        [0, 0, 1, 1, 1, 0, 0, 1, 0, 0, 0]).collector.tally.get .boxHits).toNat = 5 := by
  have hthrough :
      ((gather nearlyFull hitsAndMiss).run [0, 0, 1, 1, 1, 0, 0, 1, 0, 0, 0]).Through := by decide
  obtain ⟨-, hfinal⟩ := collector_eq_work nearlyFull hitsAndMiss [0, 0, 1, 1, 1, 0, 0, 1, 0, 0, 0]
  obtain ⟨-, -, hget, -⟩ := hfinal hthrough
  refine ⟨hthrough, ?_⟩
  rw [hget]
  decide

end Crew

end RayTally
