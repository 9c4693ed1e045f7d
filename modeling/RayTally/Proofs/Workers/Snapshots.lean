import RayTally.Proofs.Counting
import RayTally.Proofs.Workers.Crew

/-!
# Snapshots while workers run

A snapshot loads the counters one after the other, in export order, and each load is one atomic
step. Workers go on between the loads, so a snapshot need not show what all counters were at any one
time. This module says what it does show. As long as no counter wraps around, counters only grow. A
value in a snapshot was that of its counter at some time while the snapshot was taken, so it is
between those at the start and at the end.

Any number of snapshots can be taken at the same time, by whomever. A schedule says who takes the
next step: a worker, or one of the snapshots.

## Main results

* `Watch.get_le_run`: counters only grow.
* `Watch.seen_run`: what a snapshot has loaded after any number of steps.
* `Watch.exists_taken`: a snapshot can be finished at any time.
* `Watch.taken_alone`: a snapshot without workers is the tally.
* `Watch.snapshots_run`: the whole contract.
-/

namespace RayTally

/-- A **snapshot that is being taken**: the counters that are still to be loaded, and the values
that are loaded. -/
structure Snapshot where
  pending : List Counter
  seen : Tally
  deriving DecidableEq

namespace Snapshot

/-- A snapshot of which nothing is loaded. -/
def ready : Snapshot := ⟨Counter.all, .zero⟩

/-- The **next load** of a snapshot. A snapshot that is taken stays as it is. -/
def load (t : Tally) (o : Snapshot) : Snapshot :=
  match o.pending with
  | [] => o
  | k :: ks => ⟨ks, o.seen.set k (t.get k)⟩

end Snapshot

/-- **Workers and snapshots** of the collector that the workers share. -/
structure Watch where
  crew : Crew
  snapshots : List Snapshot

namespace Watch

/-- Workers, and a number of snapshots that are about to be taken. -/
def start (s : Crew) (n : Nat) : Watch := ⟨s, List.replicate n .ready⟩

/-- The counters as they are. -/
def tally (w : Watch) : Tally := w.crew.collector.tally

/-- A **step**: a turn of a worker, or a load of a snapshot. -/
inductive Step
  | turn (i : Nat)
  | load (j : Nat)
  deriving DecidableEq

/-- Takes a step. -/
def step (w : Watch) : Step → Watch
  | .turn i => { w with crew := w.crew.turn i }
  | .load j => { w with snapshots := w.snapshots.modify j (Snapshot.load w.tally) }

/-- Takes **steps**, one after the other. -/
def run (w : Watch) (steps : List Step) : Watch := steps.foldl step w

/-- The addition made in a step, if one is made. -/
def madeIn (w : Watch) : Step → List Addition
  | .turn i => w.crew.madeIn i
  | .load _ => []

/-- The additions made in steps, in the order in which they were made. -/
def made (w : Watch) : List Step → List Addition
  | [] => []
  | x :: steps => w.madeIn x ++ (w.step x).made steps

/-- **No counter wraps around** in the steps. -/
def HasRoom (w : Watch) (steps : List Step) : Prop :=
  ∀ k, (w.tally.get k).toNat + ((w.made steps).map (Addition.contribution k)).sum < 2 ^ 64

/-- A snapshot **is taken**, with these values. -/
def Taken (w : Watch) (j : Nat) (t : Tally) : Prop := w.snapshots[j]? = some ⟨[], t⟩

variable {w : Watch} {steps : List Step} {j : Nat} {k : Counter} {o o' : Snapshot}

instance (w : Watch) (j : Nat) (t : Tally) : Decidable (w.Taken j t) :=
  inferInstanceAs (Decidable (_ = _))

/-! ### Counters -/

theorem run_cons (w : Watch) (x : Step) (steps : List Step) :
    w.run (x :: steps) = (w.step x).run steps := rfl

theorem run_append (w : Watch) (steps more : List Step) :
    w.run (steps ++ more) = (w.run steps).run more :=
  List.foldl_append

/-- A step leaves the addition that is made in it. -/
theorem tally_step (w : Watch) (x : Step) : (w.step x).tally = w.tally.apply (w.madeIn x) := by
  cases x with
  | turn i => exact congrArg Collector.tally (w.crew.collector_turn i)
  | load j => rfl

/-- Steps leave the additions that are made in them. -/
theorem tally_run (w : Watch) (steps : List Step) :
    (w.run steps).tally = w.tally.apply (w.made steps) := by
  induction steps generalizing w with
  | nil => rfl
  | cons x steps ih => rw [run_cons, ih, tally_step, made, Tally.apply_append]

theorem made_append (w : Watch) (steps more : List Step) :
    w.made (steps ++ more) = w.made steps ++ (w.run steps).made more := by
  induction steps generalizing w with
  | nil => rfl
  | cons x steps ih => rw [List.cons_append, made, ih, made, run_cons, List.append_assoc]

/-- If no counter wraps around, **additions add up**. -/
theorem toNat_get_run (h : w.HasRoom steps) (k : Counter) :
    ((w.run steps).tally.get k).toNat =
      (w.tally.get k).toNat + ((w.made steps).map (Addition.contribution k)).sum := by
  rw [tally_run, Tally.toNat_get_apply, Nat.mod_eq_of_lt (h k)]

/-- If no counter wraps around, **counters only grow**. -/
theorem get_le_run (h : w.HasRoom steps) (k : Counter) :
    w.tally.get k ≤ (w.run steps).tally.get k := by
  rw [UInt64.le_iff_toNat_le, toNat_get_run h]
  exact Nat.le_add_right _ _

/-- If no counter wraps around in the steps, none does in the first of them or in the rest. -/
theorem hasRoom_append {more : List Step} (h : w.HasRoom (steps ++ more)) :
    w.HasRoom steps ∧ (w.run steps).HasRoom more := by
  have hfirst : w.HasRoom steps := by
    intro k
    have hall := h k
    rw [made_append, List.map_append, List.sum_append] at hall
    omega
  refine ⟨hfirst, fun k => ?_⟩
  have hall := h k
  rw [made_append, List.map_append, List.sum_append] at hall
  rw [toNat_get_run hfirst]
  omega

/-! ### Snapshots -/

/-- Whoever does not load leaves a snapshot as it is. -/
theorem getElem?_step {x : Step} (hx : x ≠ .load j) (w : Watch) :
    (w.step x).snapshots[j]? = w.snapshots[j]? := by
  cases x with
  | turn i => rfl
  | load i =>
    have hij : i ≠ j := fun hij => hx (hij ▸ rfl)
    simp [step, hij]

/-- A load is that of the counter that is next. -/
theorem getElem?_step_load (ho : w.snapshots[j]? = some o) :
    (w.step (.load j)).snapshots[j]? = some (o.load w.tally) := by
  simp [step, ho]

/-- Steps without its loads leave a snapshot as it is. -/
theorem getElem?_run (hsteps : .load j ∉ steps) (w : Watch) :
    (w.run steps).snapshots[j]? = w.snapshots[j]? := by
  induction steps generalizing w with
  | nil => rfl
  | cons x steps ih =>
    rw [List.mem_cons, not_or] at hsteps
    rw [run_cons, ih hsteps.2, getElem?_step (Ne.symm hsteps.1)]

/-- **What a snapshot has loaded** after steps, compared with what it had loaded before. What was
loaded stays. What has been loaded since is between the counter's value before the steps and its
value after them. -/
theorem seen_run (hroom : w.HasRoom steps) (ho : w.snapshots[j]? = some o)
    (ho' : (w.run steps).snapshots[j]? = some o') (hnodup : o.pending.Nodup) (k : Counter) :
    (k ∉ o.pending → o'.seen.get k = o.seen.get k) ∧
      (k ∈ o.pending → k ∉ o'.pending →
        w.tally.get k ≤ o'.seen.get k ∧ o'.seen.get k ≤ (w.run steps).tally.get k) := by
  induction steps generalizing w o with
  | nil =>
    obtain rfl : o = o' := Option.some.inj (ho.symm.trans ho')
    exact ⟨fun _ => rfl, fun hk hk' => absurd hk hk'⟩
  | cons x steps ih =>
    obtain ⟨hone, hrest⟩ : w.HasRoom [x] ∧ (w.step x).HasRoom steps := hasRoom_append hroom
    have hgrow : w.tally.get k ≤ (w.step x).tally.get k := get_le_run hone k
    by_cases hx : x = .load j
    · subst hx
      have hload := getElem?_step_load ho
      cases hpending : o.pending with
      | nil =>
        rw [Snapshot.load, hpending] at hload
        obtain ⟨hkept, -⟩ := ih hrest hload ho' hnodup
        rw [hpending] at hkept
        exact ⟨hkept, fun hk => absurd hk List.not_mem_nil⟩
      | cons c cs =>
        rw [hpending, List.nodup_cons] at hnodup
        rw [Snapshot.load, hpending] at hload
        obtain ⟨hkept, hloaded⟩ := ih hrest hload ho' hnodup.2
        by_cases hk : k = c
        · subst hk
          have hnow : o'.seen.get k = w.tally.get k := by
            rw [hkept hnodup.1, Tally.get_set_self]
          refine ⟨fun hno => absurd List.mem_cons_self hno, fun _ _ => ?_⟩
          rw [hnow]
          exact ⟨UInt64.le_refl _, get_le_run hroom k⟩
        · refine ⟨fun hno => ?_, fun hmem hno => hloaded (List.mem_of_ne_of_mem hk hmem) hno⟩
          rw [hkept fun hmem => hno (List.mem_cons_of_mem c hmem), Tally.get_set,
            if_neg (Ne.symm hk)]
    · rw [← getElem?_step hx] at ho
      obtain ⟨hkept, hloaded⟩ := ih hrest ho ho' hnodup
      refine ⟨hkept, fun hmem hno => ?_⟩
      obtain ⟨hlow, hhigh⟩ := hloaded hmem hno
      exact ⟨UInt64.le_trans hgrow hlow, hhigh⟩

/-- **The values of a snapshot** that is begun and finished in the steps are between those of the
counters before and after them. -/
theorem between_run {t : Tally} (hroom : w.HasRoom steps) (hready : w.snapshots[j]? = some .ready)
    (htaken : (w.run steps).Taken j t) (k : Counter) :
    w.tally.get k ≤ t.get k ∧ t.get k ≤ (w.run steps).tally.get k :=
  (seen_run hroom hready htaken Counter.nodup_all k).2 (Counter.mem_all k) List.not_mem_nil

/-- **The values of a snapshot** that makes its loads between two points are between those of the
counters at these points. -/
theorem between_points {t : Tally} {before during after : List Step}
    (hroom : w.HasRoom (before ++ during ++ after)) (hready : w.snapshots[j]? = some .ready)
    (hbefore : .load j ∉ before) (hafter : .load j ∉ after)
    (htaken : (w.run (before ++ during ++ after)).Taken j t) (k : Counter) :
    (w.run before).tally.get k ≤ t.get k ∧ t.get k ≤ (w.run (before ++ during)).tally.get k := by
  have hduring := (hasRoom_append (hasRoom_append hroom).1).2
  rw [← getElem?_run hbefore] at hready
  rw [Taken, run_append, getElem?_run hafter, run_append] at htaken
  rw [run_append]
  exact between_run hduring hready htaken k

/-- A counter that is at the end what it was at the start has **not changed between**. -/
theorem get_run_eq_of_unchanged {before part rest : List Step}
    (hroom : w.HasRoom (before ++ (part ++ rest)))
    (hsame : (w.run before).tally.get k = (w.run (before ++ (part ++ rest))).tally.get k) :
    (w.run (before ++ part)).tally.get k = (w.run before).tally.get k := by
  obtain ⟨hpart, hrest⟩ := hasRoom_append (hasRoom_append hroom).2
  have hfirst := get_le_run hpart k
  have hsecond := get_le_run hrest k
  rw [run_append, run_append] at hsame
  rw [run_append]
  exact UInt64.le_antisymm (hsame ▸ hsecond) hfirst

/-- **A snapshot that is begun after another one was finished** has no lower value. -/
theorem get_le_of_taken {i : Nat} {t u : Tally} {earlier later : List Step}
    (hroom : w.HasRoom (earlier ++ later)) (hi : w.snapshots[i]? = some .ready)
    (hj : w.snapshots[j]? = some .ready) (hlater : .load i ∉ later) (hearlier : .load j ∉ earlier)
    (ht : (w.run (earlier ++ later)).Taken i t) (hu : (w.run (earlier ++ later)).Taken j u)
    (k : Counter) : t.get k ≤ u.get k := by
  have hroom' : w.HasRoom (earlier ++ later ++ []) := by
    rw [List.append_nil]
    exact hroom
  have hu' : (w.run (earlier ++ later ++ [])).Taken j u := by
    rw [List.append_nil]
    exact hu
  have hnone : .load i ∉ ([] : List Step) := List.not_mem_nil
  obtain ⟨-, hhigh⟩ := between_points hroom hi hnone hlater ht k
  obtain ⟨hlow, -⟩ := between_points hroom' hj hearlier List.not_mem_nil hu' k
  exact UInt64.le_trans hhigh hlow

/-! ### Getting taken -/

/-- As many snapshots are being taken after steps as before. -/
theorem length_snapshots_run (w : Watch) (steps : List Step) :
    (w.run steps).snapshots.length = w.snapshots.length := by
  induction steps generalizing w with
  | nil => rfl
  | cons x steps ih =>
    rw [run_cons, ih]
    cases x with
    | turn i => rfl
    | load i => exact List.length_modify _ _ _

/-- At the start each snapshot is about to be taken. -/
theorem ready_start {n : Nat} (s : Crew) (hj : j < n) :
    (start s n).snapshots[j]? = some .ready := by
  simp [start, hj]

/-- What is taken in the end was about to be taken at the start. -/
theorem ready_of_taken {s : Crew} {n : Nat} {t : Tally} (ht : ((start s n).run steps).Taken j t) :
    (start s n).snapshots[j]? = some .ready := by
  obtain ⟨hj, -⟩ := List.getElem?_eq_some_iff.mp ht
  rw [length_snapshots_run, start, List.length_replicate] at hj
  exact ready_start s hj

/-- A load leaves no more to be loaded. -/
theorem length_pending_load (t : Tally) (o : Snapshot) :
    (o.load t).pending.length = o.pending.length - 1 := by
  rw [Snapshot.load]
  split
  · rename_i hnil
    rw [hnil]
    rfl
  · rename_i hcons
    rw [hcons]
    rfl

/-- Steps leave no more to be loaded. -/
theorem exists_pending_run (ho : w.snapshots[j]? = some o) (steps : List Step) :
    ∃ o', (w.run steps).snapshots[j]? = some o' ∧ o'.pending.length ≤ o.pending.length := by
  induction steps generalizing w o with
  | nil => exact ⟨o, ho, Nat.le_refl _⟩
  | cons x steps ih =>
    rw [run_cons]
    by_cases hx : x = .load j
    · subst hx
      obtain ⟨o', ho', hle⟩ := ih (getElem?_step_load ho)
      rw [length_pending_load] at hle
      exact ⟨o', ho', hle.trans (Nat.sub_le _ 1)⟩
    · exact ih ((getElem?_step hx w).trans ho)

/-- A snapshot is taken once it has made as many loads as there are counters. -/
theorem exists_taken {n : Nat} (ho : w.snapshots[j]? = some o) (hn : o.pending.length ≤ n) :
    ∃ t, (w.run (List.replicate n (.load j))).Taken j t := by
  induction n generalizing w o with
  | zero =>
    obtain ⟨pending, seen⟩ := o
    obtain rfl : pending = [] := List.length_eq_zero_iff.mp (Nat.le_zero.mp hn)
    exact ⟨seen, ho⟩
  | succ n ih =>
    rw [List.replicate_succ]
    refine ih (getElem?_step_load ho) ?_
    rw [length_pending_load]
    omega

/-- Loads change no counter. -/
theorem tally_run_loads (w : Watch) (j n : Nat) :
    (w.run (List.replicate n (.load j))).tally = w.tally := by
  induction n generalizing w with
  | zero => rfl
  | succ n ih =>
    rw [List.replicate_succ, run_cons, ih]
    rfl

/-- **A snapshot without workers** is what a collector answers when it is asked for one. -/
theorem taken_alone (s : Crew) (h : Host) : ∃ t,
    ((start s 1).run (List.replicate 12 (.load 0))).Taken 0 t ∧
      (s.collector.perform h .snapshot).1 = .tally t := by
  obtain ⟨t, ht⟩ := exists_taken (w := start s 1) (j := 0) (n := 12) rfl (Nat.le_refl 12)
  have hroom : (start s 1).HasRoom (List.replicate 12 (.load 0)) :=
    fun k => (s.collector.tally.get k).toNat_lt
  refine ⟨t, ht, congrArg Answer.tally (Tally.ext_get fun k => ?_)⟩
  obtain ⟨hlow, hhigh⟩ := between_run hroom rfl ht k
  rw [tally_run_loads] at hhigh
  exact UInt64.le_antisymm hlow hhigh

/-! ### All snapshots -/

/-- The **counters after steps**. -/
def tallyAfter (s : Crew) (n : Nat) (part : List Step) : Tally := ((start s n).run part).tally

/-- A snapshot makes its loads **between two points** of steps. -/
structure LoadsWithin (j : Nat) (steps before during after : List Step) : Prop where
  split : steps = before ++ during ++ after
  first : .load j ∉ before
  last : .load j ∉ after

/-- **What snapshots show** while workers run.

* Whatever the steps were, a snapshot is taken after as many loads of it as there are counters.
* If a snapshot makes its loads between two points, each of its values is between those of the
  counter at these points.
* If each counter of a category is at the second of these points what it was at the first, the
  values of that category are those of the counters at all points between.
* If a snapshot makes its first load after another one has made its last, no value of it is lower.
  -/
structure Shows (s : Crew) (n : Nat) (steps : List Step) : Prop where
  taken : ∀ j < n, ∃ t, ((start s n).run (steps ++ List.replicate 12 (.load j))).Taken j t
  between : ∀ j t before during after, ((start s n).run steps).Taken j t →
    LoadsWithin j steps before during after →
      ∀ k, (tallyAfter s n before).get k ≤ t.get k ∧
        t.get k ≤ (tallyAfter s n (before ++ during)).get k
  unchanged : ∀ j t before during after, ((start s n).run steps).Taken j t →
    LoadsWithin j steps before during after → ∀ c : Category,
      (∀ k, k.category = c →
        (tallyAfter s n before).get k = (tallyAfter s n (before ++ during)).get k) →
      ∀ part, part <+: during → ∀ k, k.category = c →
        t.get k = (tallyAfter s n (before ++ part)).get k
  ordered : ∀ i j t u earlier later, ((start s n).run steps).Taken i t →
    ((start s n).run steps).Taken j u → steps = earlier ++ later → .load i ∉ later →
      .load j ∉ earlier → ∀ k, t.get k ≤ u.get k

/-- **Snapshots while workers run**, as long as no counter wraps around. -/
theorem snapshots_run (s : Crew) (n : Nat) {steps : List Step} (hroom : (start s n).HasRoom steps) :
    Shows s n steps := by
  have hbetween {j : Nat} {t : Tally} {before during after : List Step}
      (ht : ((start s n).run steps).Taken j t) (hloads : LoadsWithin j steps before during after)
      (k : Counter) : (tallyAfter s n before).get k ≤ t.get k ∧
        t.get k ≤ (tallyAfter s n (before ++ during)).get k := by
    obtain ⟨hsplit, hbefore, hafter⟩ := hloads
    have hj := ready_of_taken ht
    rw [hsplit] at hroom ht
    exact between_points hroom hj hbefore hafter ht k
  refine ⟨fun j hj => ?_, fun j t before during after ht hloads => hbetween ht hloads,
    fun j t before during after ht hloads c hsame part hpart k hk => ?_,
    fun i j t u earlier later hi hj hsplit hlater hearlier => ?_⟩
  · obtain ⟨o, ho, hle⟩ := exists_pending_run (ready_start s hj) steps
    rw [run_append]
    exact exists_taken ho hle
  · obtain ⟨hlow, hhigh⟩ := hbetween ht hloads k
    obtain ⟨rest, rfl⟩ := hpart
    rw [hloads.split] at hroom
    have hunchanged : (tallyAfter s n (before ++ part)).get k = (tallyAfter s n before).get k :=
      get_run_eq_of_unchanged (hasRoom_append hroom).1 (hsame k hk)
    rw [hunchanged]
    exact UInt64.le_antisymm ((hsame k hk).symm ▸ hhigh) hlow
  · have hready := ready_of_taken hi
    have hready' := ready_of_taken hj
    subst hsplit
    exact get_le_of_taken hroom hready hready' hlater hearlier hi hj

/-- A collector with an open gate, and a worker that has a hit to count. -/
def oneHit : Crew :=
  Crew.gather { Collector.new with gate := .enabled } [[.record (.outcome .rayBox true)]]

/-- A snapshot that loads its first counter before the hit is counted and all others after it, and
then another snapshot. -/
def torn : List Step :=
  .load 0 :: [.turn 0, .turn 0, .turn 0] ++ List.replicate 11 (.load 0) ++
    List.replicate 12 (.load 1)

/-- The first snapshot has a hit without its test. That is not what the counters were at any time,
but what it has of the rays is, and the second snapshot, which has both, is nowhere below it. -/
theorem snapshots_run_torn :
    (start oneHit 2).HasRoom torn ∧ ∃ t u,
      ((start oneHit 2).run torn).Taken 0 t ∧ ((start oneHit 2).run torn).Taken 1 u ∧
        t.get .boxTests = 0 ∧ t.get .boxHits = 1 ∧ u.get .boxTests = 1 ∧
        (∀ k, t.get k ≤ u.get k) ∧
        ∀ k, k.category = .ray → t.get k =
          ((start oneHit 2).run [.load 0, .turn 0]).tally.get k := by
  have hroom : (start oneHit 2).HasRoom torn := by
    intro k
    cases k <;> decide
  have hshows := snapshots_run oneHit 2 hroom
  have ht : ((start oneHit 2).run torn).Taken 0 (Tally.zero.set .boxHits 1) := by decide
  have hu : ((start oneHit 2).run torn).Taken 1 ((Tally.zero.set .boxTests 1).set .boxHits 1) := by
    decide
  refine ⟨hroom, _, _, ht, hu, by decide, by decide, by decide, ?_, fun k hk => ?_⟩
  · exact hshows.ordered 0 1 _ _ (torn.take 15) (torn.drop 15) ht hu rfl (by decide) (by decide)
  · have hloads : LoadsWithin 0 torn [] (torn.take 15) (torn.drop 15) :=
      ⟨rfl, by decide, by decide⟩
    refine hshows.unchanged 0 _ [] (torn.take 15) (torn.drop 15) ht hloads .ray (fun j hj => ?_)
      [.load 0, .turn 0] (by decide) k hk
    cases j <;> first | rfl | cases hj

end Watch

end RayTally
