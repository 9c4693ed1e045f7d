import RayTally.Operation

/-!
# What operations do to a collector

An operation answers, writes, logs, and changes the collector. What it does to the collector depends
on the host only where settings are read from a file; once that is done it is one of five acts. A
run therefore comes down to its acts, one for each operation, and the rest of the host can be
forgotten as long as only the collector is of interest.

## Main results

* `Collector.perform_eq_enact`: what an operation leaves of a collector is what its act leaves.
* `Collector.run_eq_foldl`: the same for runs.
* `firstInit?_eq_some_iff`: which `init` is the first one.
-/

namespace RayTally

/-- What is **done to a collector**. -/
inductive Act
  | init (s : Settings)
  | cleanup
  | clear
  | count (us : List Update)
  | other
  deriving DecidableEq

/-- The act of an operation. Settings that cannot be read start nothing. -/
def Operation.act (h : Host) : Operation → Act
  | .init s => .init s
  | .initFromYaml text =>
    match Settings.ofYaml text with
    | .ok s => .init s
    | .error _ => .other
  | .initFromFile p =>
    match Settings.load h.files p with
    | .ok s => .init s
    | .error _ => .other
  | .cleanup => .cleanup
  | .reset => .clear
  | .clear => .clear
  | .update u => .count [u]
  | .work scripts => .count scripts.flatten
  | _ => .other

/-- Scripts one after the other make the additions of their updates, one after the other. -/
theorem Script.flatMap_additions (g : Gate) (scripts : List Script) :
    scripts.flatMap (Script.additions g) = scripts.flatten.flatMap (Update.additions g) := by
  rw [List.flatten_eq_flatMap, List.flatMap_assoc]
  rfl

namespace Collector

/-- The collector after an act. -/
def enact (c : Collector) : Act → Collector
  | .init s => if c.phase = .uninitialized then c.started s else c
  | .cleanup => if c.phase = .active then { c with phase := .terminated } else c
  | .clear => c.clear
  | .count us => { c with tally := c.tally.apply (us.flatMap (Update.additions c.gate)) }
  | .other => c

/-- The acts of a run, one for each operation. -/
def acts (c : Collector) (h : Host) : List Operation → List Act
  | [] => []
  | op :: ops => op.act h :: acts (c.perform h op).2.1 (c.perform h op).2.2 ops

/-! ### One operation -/

/-- An operation whose act is an `init` does nothing else. -/
theorem perform_of_init {op : Operation} {h : Host} {s : Settings} (ha : op.act h = .init s)
    (c : Collector) : (c.perform h op).2 = c.init s h := by
  cases op
  case init s' =>
    cases ha
    rfl
  case initFromYaml text =>
    cases hread : Settings.ofYaml text with
    | error e => simp only [Operation.act, hread, reduceCtorEq] at ha
    | ok s' =>
      simp only [Operation.act, hread, Act.init.injEq] at ha
      simp only [perform, hread, ha]
  case initFromFile p =>
    cases hread : Settings.load h.files p with
    | error e => simp only [Operation.act, hread, reduceCtorEq] at ha
    | ok s' =>
      simp only [Operation.act, hread, Act.init.injEq] at ha
      simp only [perform, hread, ha]
  all_goals cases ha

/-- Only `cleanup` itself acts as one. -/
theorem eq_cleanup_of_act {op : Operation} {h : Host} (ha : op.act h = .cleanup) :
    op = .cleanup := by
  cases op
  case cleanup => rfl
  case initFromYaml text =>
    simp only [Operation.act] at ha
    split at ha <;> cases ha
  case initFromFile p =>
    simp only [Operation.act] at ha
    split at ha <;> cases ha
  all_goals cases ha

/-- Only an uninitialized collector is started. -/
theorem init_fst (c : Collector) (s : Settings) (h : Host) :
    (c.init s h).1 = c.enact (.init s) := by
  rw [init, enact]
  by_cases hc : c.phase = .uninitialized
  · rw [if_neg (not_not_intro hc), if_pos hc]
  · rw [if_pos hc, if_neg hc]

/-- Only an active collector is terminated. -/
theorem cleanup_fst (c : Collector) (h : Host) : (c.cleanup h).1 = c.enact .cleanup := by
  rw [cleanup, enact]
  by_cases hc : c.phase = .active
  · rw [if_neg (not_not_intro hc), if_pos hc]
  · rw [if_pos hc, if_neg hc]

/-- **An operation leaves of a collector** what its act leaves. -/
theorem perform_eq_enact (c : Collector) (h : Host) (op : Operation) :
    (c.perform h op).2.1 = c.enact (op.act h) := by
  cases op
  case init s => exact init_fst c s h
  case initFromYaml text =>
    simp only [perform, Operation.act]
    cases Settings.ofYaml text with
    | error e => rfl
    | ok s => exact init_fst c s h
  case initFromFile p =>
    simp only [perform, Operation.act]
    cases Settings.load h.files p with
    | error e => rfl
    | ok s => exact init_fst c s h
  case cleanup => exact cleanup_fst c h
  case update u =>
    simp only [perform, Operation.act, enact, update, List.flatMap_singleton]
  case work scripts =>
    simp only [perform, Operation.act, enact, work, Tally.work, Script.flatMap_additions]
  case load p =>
    simp only [perform, Operation.act]
    cases Import.load h.files p <;> rfl
  case loadSettings p =>
    simp only [perform, Operation.act]
    cases Settings.load h.files p <;> rfl
  all_goals rfl

/-! ### Runs -/

/-- There is an act for each operation. -/
theorem length_acts (c : Collector) (h : Host) (ops : List Operation) :
    (c.acts h ops).length = ops.length := by
  induction ops generalizing c h with
  | nil => rfl
  | cons op ops ih => rw [acts, List.length_cons, ih, List.length_cons]

/-- **A run leaves of a collector** what its acts leave, one after the other. -/
theorem run_eq_foldl (c : Collector) (h : Host) (ops : List Operation) :
    (c.run h ops).1 = (c.acts h ops).foldl enact c := by
  induction ops generalizing c h with
  | nil => rfl
  | cons op ops ih =>
    rw [acts, List.foldl_cons, ← perform_eq_enact, ← ih]
    rfl

end Collector

/-! ### The first start -/

/-- The settings of the first `init` among acts, and the acts after it. -/
def firstInit? : List Act → Option (Settings × List Act)
  | [] => none
  | .init s :: as => some (s, as)
  | _ :: as => firstInit? as

/-- An act that is no `init` is passed over. -/
theorem firstInit?_cons_of_ne {a : Act} (ha : ∀ s, a ≠ .init s) (as : List Act) :
    firstInit? (a :: as) = firstInit? as := by
  cases a with
  | init s => exact absurd rfl (ha s)
  | cleanup | clear | count us | other => rfl

/-- **The first `init`** has no other before it. -/
theorem firstInit?_eq_some_iff {as after : List Act} {s : Settings} :
    firstInit? as = some (s, after) ↔
      ∃ before, as = before ++ .init s :: after ∧ ∀ s', .init s' ∉ before := by
  induction as with
  | nil => simp [firstInit?]
  | cons a as ih =>
    by_cases ha : ∃ t, a = .init t
    · obtain ⟨t, rfl⟩ := ha
      constructor
      · intro h
        cases h
        exact ⟨[], rfl, fun s' => List.not_mem_nil⟩
      · rintro ⟨before, h, hno⟩
        cases before with
        | nil =>
          cases h
          rfl
        | cons b before =>
          obtain ⟨rfl, -⟩ := List.cons.inj h
          exact absurd List.mem_cons_self (hno t)
    · rw [not_exists] at ha
      rw [firstInit?_cons_of_ne ha, ih]
      constructor
      · rintro ⟨before, rfl, hno⟩
        refine ⟨a :: before, rfl, fun s' hmem => ?_⟩
        rcases List.mem_cons.mp hmem with h | hmem
        · exact ha s' h.symm
        · exact hno s' hmem
      · rintro ⟨before, h, hno⟩
        cases before with
        | nil => exact absurd (List.cons.inj h).1 (ha s)
        | cons b before =>
          obtain ⟨-, rfl⟩ := List.cons.inj h
          exact ⟨before, rfl, fun s' hmem => hno s' (List.mem_cons_of_mem _ hmem)⟩

/-- What follows does not change which `init` is the first one. -/
theorem firstInit?_append (as bs : List Act) :
    firstInit? (as ++ bs) =
      match firstInit? as with
      | some (s, after) => some (s, after ++ bs)
      | none => firstInit? bs := by
  induction as with
  | nil => rfl
  | cons a as ih => cases a <;> first | rfl | exact ih

end RayTally
