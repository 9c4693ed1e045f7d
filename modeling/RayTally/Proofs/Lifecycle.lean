import RayTally.Proofs.Acts
import RayTally.Proofs.Outputs

/-!
# The life of a collector

Gate, settings and phase are three fields that `init` and `cleanup` must keep in step, whatever is
called in between and in whatever order. This module says what they are at every point of a run, in
terms of the calls that were made: only the first `init` and the first `cleanup` after it count, and
all others are ignored with a warning. What a `cleanup` prints and exports is counted among the
outputs of the run.

## Main results

* `Lived.enact`: an act keeps phase, settings and gate in step with the acts made so far.
* `Lived.run`: so they are in step at every point of a run.
* `Lived.countP_cleanupOutputs`: how often the `cleanup`s of a run print and export.
* `Lived.ignored_init`, `Lived.ignored_cleanup`: which calls are ignored.
* `Collector.lifecycle_run`: the whole contract, ignored calls and their warnings included.
-/

namespace RayTally

/-- **In step with acts**: phase, settings and gate are what the first `init` among the acts made of
them, and the acts after it. -/
structure Lived (as : List Act) (c : Collector) : Prop where
  uninitialized : firstInit? as = none → c.phase = .uninitialized ∧ c.settings = .default
  initialized : ∀ s after, firstInit? as = some (s, after) →
    c.settings = s ∧ c.phase = if .cleanup ∈ after then .terminated else .active
  gate : c.gate.isEnabled = c.settings.enabled

/-- The **name of the phase** after acts. -/
def phaseName (as : List Act) : String :=
  match firstInit? as with
  | some (_, after) => if .cleanup ∈ after then "Terminated" else "Active"
  | none => "Uninitialized"

/-- What the **`cleanup`s of a run put out**. -/
def Collector.cleanupOutputs (c : Collector) (h : Host) : List Operation → List Output
  | [] => []
  | op :: ops =>
    (if op.act h = .cleanup then c.outputs h op else []) ++
      cleanupOutputs (c.perform h op).2.1 (c.perform h op).2.2 ops

/-- After the acts there was a report: the first `init` turned collection on, and a `cleanup`
followed it. -/
def reported (as : List Act) : Bool :=
  match firstInit? as with
  | some (s, after) => s.enabled && after.contains .cleanup
  | none => false

/-- What it takes for a report. -/
theorem reported_eq_true_iff {as : List Act} :
    reported as = true ↔
      ∃ s after, firstInit? as = some (s, after) ∧ s.enabled = true ∧ .cleanup ∈ after := by
  rw [reported]
  cases firstInit? as with
  | none => simp
  | some p =>
    obtain ⟨s, after⟩ := p
    simp only [Bool.and_eq_true, List.contains_iff_mem]
    constructor
    · exact fun h => ⟨s, after, rfl, h⟩
    · rintro ⟨s', after', heq, h⟩
      cases heq
      exact h

/-- Calls out of order: a `cleanup` too early, and each call once too often. -/
example : reported
    [.cleanup, .init ⟨true, none⟩, .init ⟨false, none⟩, .cleanup, .cleanup] = true := by decide

/-- The warning that a call is ignored. It **names the phase**. -/
def ignoredWarning (as : List Act) (call : String) : Record :=
  ⟨.warn, "ray_stats", call ++ " called in state " ++ phaseName as ++ ", ignoring"⟩

/-- An operation is **ignored** after acts: the collector stays as it is, and all that happens to
the host is that one warning is logged. -/
structure Ignored (as : List Act) (c : Collector) (h : Host) (op : Operation) (call : String) :
    Prop where
  collector : (c.perform h op).2.1 = c
  host : (c.perform h op).2.2 = h.log (ignoredWarning as call)
  records : ∀ rs, h.logger = .collecting rs →
    (c.perform h op).2.2 = { h with logger := .collecting (rs ++ [ignoredWarning as call]) }

namespace Lived

variable {as : List Act} {a : Act} {c c' : Collector}

/-- A collector as it is made is in step with no acts. -/
theorem new : Lived [] .new where
  uninitialized _ := ⟨rfl, rfl⟩
  initialized _ _ h := by cases h
  gate := rfl

/-- A collector is uninitialized as long as there was no `init`. -/
theorem phase_eq_uninitialized_iff (h : Lived as c) :
    c.phase = .uninitialized ↔ firstInit? as = none := by
  constructor
  · intro hphase
    cases hfirst : firstInit? as with
    | none => rfl
    | some p =>
      have := (h.initialized p.1 p.2 hfirst).2
      rw [hphase] at this
      split at this <;> cases this
  · exact fun hfirst => (h.uninitialized hfirst).1

/-- A collector is active from the first `init` to the first `cleanup` after it. -/
theorem phase_eq_active_iff (h : Lived as c) :
    c.phase = .active ↔ ∃ s after, firstInit? as = some (s, after) ∧ .cleanup ∉ after := by
  constructor
  · intro hphase
    cases hfirst : firstInit? as with
    | none =>
      rw [(h.uninitialized hfirst).1] at hphase
      cases hphase
    | some p =>
      refine ⟨p.1, p.2, rfl, fun hmem => ?_⟩
      rw [(h.initialized p.1 p.2 hfirst).2, if_pos hmem] at hphase
      cases hphase
  · rintro ⟨s, after, hfirst, hmem⟩
    rw [(h.initialized s after hfirst).2, if_neg hmem]

/-- The phase is **called what it is**. -/
theorem name_phase (h : Lived as c) : c.phase.name = phaseName as := by
  rw [phaseName]
  cases hfirst : firstInit? as with
  | none =>
    rw [(h.uninitialized hfirst).1]
    rfl
  | some p =>
    rw [(h.initialized p.1 p.2 hfirst).2]
    dsimp only
    split <;> rfl

/-! ### One act -/

/-- Once there was an `init`, it and what follows it are all that matters. -/
theorem of_firstInit {s : Settings} {after : List Act} (hfirst : firstInit? as = some (s, after))
    (hsettings : c.settings = s)
    (hphase : c.phase = if .cleanup ∈ after then .terminated else .active)
    (hgate : c.gate.isEnabled = c.settings.enabled) : Lived as c where
  uninitialized hnone := by
    rw [hfirst] at hnone
    cases hnone
  initialized s' after' hsome := by
    rw [hfirst] at hsome
    cases hsome
    exact ⟨hsettings, hphase⟩
  gate := hgate

/-- What touches neither phase nor settings nor gate keeps them in step, unless it should have. -/
theorem of_eq (h : Lived as c) (hcleanup : a ≠ .cleanup)
    (hinit : firstInit? as = none → ∀ s, a ≠ .init s) (hphase : c'.phase = c.phase)
    (hsettings : c'.settings = c.settings) (hgate : c'.gate = c.gate) :
    Lived (as ++ [a]) c' := by
  have hgate' : c'.gate.isEnabled = c'.settings.enabled := by rw [hgate, hsettings, h.gate]
  cases hfirst : firstInit? as with
  | none =>
    have hnew : firstInit? (as ++ [a]) = none := by
      rw [firstInit?_append, hfirst]
      exact firstInit?_cons_of_ne (hinit hfirst) []
    refine ⟨fun _ => ?_, fun s after hsome => ?_, hgate'⟩
    · rw [hphase, hsettings]
      exact h.uninitialized hfirst
    · rw [hnew] at hsome
      cases hsome
  | some p =>
    have hnew : firstInit? (as ++ [a]) = some (p.1, p.2 ++ [a]) := by
      rw [firstInit?_append, hfirst]
    have hmem : .cleanup ∈ p.2 ++ [a] ↔ .cleanup ∈ p.2 := by
      simp [hcleanup.symm]
    obtain ⟨hold, hlife⟩ := h.initialized p.1 p.2 hfirst
    refine of_firstInit hnew (hsettings.trans hold) ?_ hgate'
    simp only [hphase, hlife, hmem]

/-- **The first `init`** decides, and a later one changes nothing. -/
theorem enact_init (h : Lived as c) (s : Settings) :
    Lived (as ++ [.init s]) (c.enact (.init s)) := by
  rw [Collector.enact]
  cases hfirst : firstInit? as with
  | none =>
    have hnew : firstInit? (as ++ [.init s]) = some (s, []) := by
      rw [firstInit?_append, hfirst]
      rfl
    rw [if_pos (h.phase_eq_uninitialized_iff.mpr hfirst)]
    exact of_firstInit hnew rfl rfl rfl
  | some p =>
    have hphase : ¬c.phase = .uninitialized := by
      rw [h.phase_eq_uninitialized_iff, hfirst]
      exact Option.some_ne_none p
    rw [if_neg hphase]
    refine h.of_eq (by simp) (fun hnone => ?_) rfl rfl rfl
    rw [hfirst] at hnone
    cases hnone

/-- **After the first `init`** a `cleanup` leaves the collector terminated, and before it a
`cleanup` changes nothing. -/
theorem enact_cleanup (h : Lived as c) : Lived (as ++ [.cleanup]) (c.enact .cleanup) := by
  rw [Collector.enact]
  cases hfirst : firstInit? as with
  | none =>
    have hnew : firstInit? (as ++ [.cleanup]) = none := by
      rw [firstInit?_append, hfirst]
      rfl
    rw [if_neg (by rw [(h.uninitialized hfirst).1]; decide)]
    refine ⟨fun _ => h.uninitialized hfirst, fun s after hsome => ?_, h.gate⟩
    rw [hnew] at hsome
    cases hsome
  | some p =>
    have hnew : firstInit? (as ++ [.cleanup]) = some (p.1, p.2 ++ [.cleanup]) := by
      rw [firstInit?_append, hfirst]
    have hmem : .cleanup ∈ p.2 ++ [.cleanup] := List.mem_append_right _ List.mem_cons_self
    obtain ⟨hsettings, hphase⟩ := h.initialized p.1 p.2 hfirst
    split
    · exact of_firstInit hnew hsettings (if_pos hmem).symm h.gate
    · rename_i hne
      split at hphase
      · exact of_firstInit hnew hsettings (hphase.trans (if_pos hmem).symm) h.gate
      · exact absurd hphase hne

/-- **One act** keeps phase, settings and gate in step. -/
theorem enact (h : Lived as c) (a : Act) : Lived (as ++ [a]) (c.enact a) := by
  cases a with
  | init s => exact h.enact_init s
  | cleanup => exact h.enact_cleanup
  | clear => exact h.of_eq (by simp) (fun _ _ => by simp) rfl rfl rfl
  | count us => exact h.of_eq (by simp) (fun _ _ => by simp) rfl rfl rfl
  | other => exact h.of_eq (by simp) (fun _ _ => by simp) rfl rfl rfl

/-- **One operation** keeps them in step, as its act does. -/
theorem perform (h : Lived as c) (host : Host) (op : Operation) :
    Lived (as ++ [op.act host]) (c.perform host op).2.1 := by
  rw [Collector.perform_eq_enact]
  exact h.enact (op.act host)

/-- **Acts** keep phase, settings and gate in step, one after the other. -/
theorem foldl (h : Lived as c) (bs : List Act) : Lived (as ++ bs) (bs.foldl Collector.enact c) := by
  induction bs generalizing as c with
  | nil =>
    rw [List.append_nil]
    exact h
  | cons b bs ih =>
    rw [List.append_cons]
    exact ih (h.enact b)

/-- **A run** from the start keeps phase, settings and gate in step with its acts. -/
theorem run (host : Host) (ops : List Operation) :
    Lived (Collector.new.acts host ops) (Collector.new.run host ops).1 := by
  rw [Collector.run_eq_foldl]
  exact new.foldl (Collector.new.acts host ops)

/-! ### Reports -/

/-- What is no `cleanup` does not make a report out of what was none. -/
theorem reported_append_of_ne (as : List Act) (ha : a ≠ .cleanup) :
    reported (as ++ [a]) = reported as := by
  rw [reported, reported]
  cases hfirst : firstInit? as with
  | none =>
    simp only [firstInit?_append, hfirst]
    cases a with
    | init s =>
      simp only [firstInit?, List.contains_nil, Bool.and_false]
    | cleanup => exact absurd rfl ha
    | clear | count us | other => rfl
  | some p =>
    have hcontains : (p.2 ++ [a]).contains .cleanup = p.2.contains .cleanup := by
      simp [ha.symm]
    simp only [firstInit?_append, hfirst, hcontains]

/-- A **`cleanup` reports** if it is the first one after a first `init` that turned collection
on. -/
theorem reported_append_cleanup (h : Lived as c) :
    (reported (as ++ [.cleanup])).toNat =
      (reported as).toNat + if c.phase = .active ∧ c.gate.isEnabled = true then 1 else 0 := by
  rw [reported, reported]
  cases hfirst : firstInit? as with
  | none =>
    rw [(h.uninitialized hfirst).1]
    simp only [firstInit?_append, hfirst]
    rfl
  | some p =>
    obtain ⟨hsettings, hphase⟩ := h.initialized p.1 p.2 hfirst
    rw [h.gate, hsettings, hphase]
    simp only [firstInit?_append, hfirst]
    by_cases hmem : .cleanup ∈ p.2
    · simp [hmem]
    · cases p.1.enabled <;> simp [hmem]

/-- The end of a collection is put out **once**, with whatever records. -/
theorem countP_finalOutputs (c : Collector) (host : Host) {count : Output → Bool}
    (hrecord : ∀ r, count (.record r) = false)
    (hone : ∀ lead t t' p,
      (count (.summary lead t)).toNat + (count (.exported t' p)).toNat = 1) :
    (c.finalOutputs host).countP count = 1 := by
  have hrecords (rs : List Record) : (rs.map Output.record).countP count = 0 := by
    rw [List.countP_eq_zero]
    intro o ho
    obtain ⟨r, -, rfl⟩ := List.mem_map.mp ho
    rw [hrecord]
    exact Bool.false_ne_true
  rw [Collector.finalOutputs, Summary.outputs, Export.outputs, List.countP_append,
    List.countP_append, List.countP_cons, List.countP_cons, List.countP_singleton, hrecords,
    hrecords, hrecord]
  have hboth := hone "Final " c.tally c.tally c.settings.resolvedOutputPath
  revert hboth
  cases count (.summary "Final " c.tally) <;>
    cases count (.exported c.tally c.settings.resolvedOutputPath) <;> simp

/-- What a **`cleanup`** puts out. -/
theorem countP_outputs_cleanup (c : Collector) (host : Host) {count : Output → Bool}
    (hrecord : ∀ r, count (.record r) = false)
    (hone : ∀ lead t t' p,
      (count (.summary lead t)).toNat + (count (.exported t' p)).toNat = 1) :
    (c.outputs host .cleanup).countP count =
      if c.phase = .active ∧ c.gate.isEnabled = true then 1 else 0 := by
  rw [Collector.outputs]
  by_cases hphase : c.phase = .active
  · rw [if_neg (not_not_intro hphase)]
    by_cases hgate : c.gate.isEnabled = true
    · rw [if_pos hgate, if_pos ⟨hphase, hgate⟩]
      exact countP_finalOutputs c host hrecord hone
    · rw [if_neg hgate, if_neg fun hboth => hgate hboth.2, List.countP_nil]
  · rw [if_pos hphase, if_neg fun hboth => hphase hboth.1, List.countP_singleton, hrecord]
    exact if_neg Bool.false_ne_true

/-- **A run's `cleanup`s** print and export as often as its acts say: at most once. -/
theorem countP_cleanupOutputs (h : Lived as c) (host : Host) (ops : List Operation)
    {count : Output → Bool} (hrecord : ∀ r, count (.record r) = false)
    (hone : ∀ lead t t' p,
      (count (.summary lead t)).toNat + (count (.exported t' p)).toNat = 1) :
    (reported (as ++ c.acts host ops)).toNat =
      (reported as).toNat + (c.cleanupOutputs host ops).countP count := by
  induction ops generalizing as c host with
  | nil => rw [Collector.acts, Collector.cleanupOutputs, List.append_nil, List.countP_nil,
      Nat.add_zero]
  | cons op ops ih =>
    have hop : (reported (as ++ [op.act host])).toNat = (reported as).toNat +
        (if op.act host = .cleanup then c.outputs host op else []).countP count := by
      by_cases hact : op.act host = .cleanup
      · obtain rfl := Collector.eq_cleanup_of_act hact
        rw [if_pos hact, countP_outputs_cleanup c host hrecord hone]
        exact h.reported_append_cleanup
      · rw [if_neg hact, reported_append_of_ne as hact, List.countP_nil, Nat.add_zero]
    have hrun := ih (h.perform host op) (c.perform host op).2.2
    rw [List.append_assoc, List.singleton_append, hop] at hrun
    rw [Collector.acts, Collector.cleanupOutputs, hrun, List.countP_append, Nat.add_assoc]

/-! ### What is ignored -/

/-- A warning is all that a logger keeps of an ignored call. -/
theorem ignored_of_warnIgnored (h : Lived as c) {host : Host} {op : Operation} {call : String}
    (hop : (c.perform host op).2 = (c, c.warnIgnored call host)) : Ignored as c host op call := by
  have hwarning : c.warnIgnored call host = host.log (ignoredWarning as call) := by
    rw [Collector.warnIgnored, h.name_phase]
    rfl
  refine ⟨by rw [hop], by rw [hop, hwarning], fun rs hrs => ?_⟩
  rw [hop, hwarning, Host.log_of_collecting hrs]

/-- **Every `init` but the first** is ignored. -/
theorem ignored_init (h : Lived as c) {host : Host} {op : Operation} {s : Settings}
    (hact : op.act host = .init s) (hfirst : firstInit? as ≠ none) :
    Ignored as c host op "init" := by
  refine h.ignored_of_warnIgnored ?_
  rw [Collector.perform_of_init hact]
  exact Collector.init_of_ne (fun hphase => hfirst (h.phase_eq_uninitialized_iff.mp hphase)) s host

/-- **Every `cleanup` but the first after the first `init`** is ignored. -/
theorem ignored_cleanup (h : Lived as c) (host : Host)
    (hlate : ∀ s after, firstInit? as = some (s, after) → .cleanup ∈ after) :
    Ignored as c host .cleanup "cleanup" := by
  refine h.ignored_of_warnIgnored ?_
  rw [Collector.perform]
  refine Collector.cleanup_of_ne (fun hphase => ?_) host
  obtain ⟨s, after, hfirst, hmem⟩ := h.phase_eq_active_iff.mp hphase
  exact hmem (hlate s after hfirst)

/-- The first `cleanup` after the first `init` prints and exports if collection was turned on. -/
theorem cleanup_in_time (h : Lived as c) (host : Host) {s : Settings} {after : List Act}
    (hfirst : firstInit? as = some (s, after)) (hmem : .cleanup ∉ after) :
    (c.perform host .cleanup).2 = ({ c with phase := .terminated },
      if s.enabled then
        host.takeAll (Summary.outputs "Final " c.tally host ++
          Export.outputs c.tally s.resolvedOutputPath host.files)
      else host) := by
  have hphase := h.phase_eq_active_iff.mpr ⟨s, after, hfirst, hmem⟩
  obtain ⟨hsettings, -⟩ := h.initialized s after hfirst
  rw [Collector.perform, Collector.cleanup, if_neg (not_not_intro hphase), h.gate,
    Collector.host_conclude, Collector.finalOutputs, hsettings]

end Lived

/-! ### The whole contract -/

/-- The **rules of a collector's life**, at a point of a run where acts lie behind it.

* Phase, settings and gate are in step with the acts.
* An operation does nothing to its host but to put out its outputs.
* Any `init` but the first, and any `cleanup` but the first one after it, is ignored.
* That `cleanup` terminates the collector. If the first `init` turned collection on, it prints the
  summary and saves the export. -/
structure Behaves (as : List Act) (c : Collector) (h : Host) : Prop where
  lived : Lived as c
  outputs : ∀ op, (c.perform h op).2.2 = h.takeAll (c.outputs h op)
  ignored_init : ∀ op s, op.act h = .init s → firstInit? as ≠ none → Ignored as c h op "init"
  ignored_cleanup : (∀ s after, firstInit? as = some (s, after) → .cleanup ∈ after) →
    Ignored as c h .cleanup "cleanup"
  cleanup : ∀ s after, firstInit? as = some (s, after) → .cleanup ∉ after →
    (c.perform h .cleanup).2 = ({ c with phase := .terminated },
      if s.enabled then
        h.takeAll (Summary.outputs "Final " c.tally h ++
          Export.outputs c.tally s.resolvedOutputPath h.files)
      else h)

/-- **One report at most** is among outputs: one summary and one export if the first `init` turned
collection on and a `cleanup` followed it, and else none. -/
structure ReportedOnce (as : List Act) (os : List Output) : Prop where
  summary_le : os.countP Output.isSummary ≤ 1
  summary_iff : os.countP Output.isSummary = 1 ↔
    ∃ s after, firstInit? as = some (s, after) ∧ s.enabled = true ∧ .cleanup ∈ after
  export_le : os.countP Output.isExport ≤ 1
  export_iff : os.countP Output.isExport = 1 ↔
    ∃ s after, firstInit? as = some (s, after) ∧ s.enabled = true ∧ .cleanup ∈ after

/-- A count that is what the acts say is **one at most**. -/
theorem toNat_reported {as : List Act} {n : Nat} (h : (reported as).toNat = n) :
    n ≤ 1 ∧ (n = 1 ↔
      ∃ s after, firstInit? as = some (s, after) ∧ s.enabled = true ∧ .cleanup ∈ after) := by
  rw [← reported_eq_true_iff, ← h]
  cases reported as <;> decide

namespace Collector

/-- **The life of a collector.** At every point of every run the rules are followed, and what all
`cleanup`s of the run put out has one summary and one export at most. -/
theorem lifecycle_run (h : Host) (ops : List Operation) :
    Behaves (new.acts h ops) (new.run h ops).1 (new.run h ops).2 ∧
      ReportedOnce (new.acts h ops) (new.cleanupOutputs h ops) := by
  have hlived := Lived.run h ops
  have hcount (count : Output → Bool) (hrecord : ∀ r, count (.record r) = false)
      (hone : ∀ lead t t' p,
        (count (.summary lead t)).toNat + (count (.exported t' p)).toNat = 1) :
      (reported (new.acts h ops)).toNat = (new.cleanupOutputs h ops).countP count := by
    have hrun := Lived.new.countP_cleanupOutputs h ops hrecord hone
    have hnil : (reported []).toNat = 0 := rfl
    rwa [List.nil_append, hnil, Nat.zero_add] at hrun
  have hsummary := toNat_reported (hcount Output.isSummary (fun _ => rfl) fun _ _ _ _ => rfl)
  have hexport := toNat_reported (hcount Output.isExport (fun _ => rfl) fun _ _ _ _ => rfl)
  refine ⟨⟨hlived, fun op => host_perform _ op _, fun op s => hlived.ignored_init,
    hlived.ignored_cleanup _, fun s after => hlived.cleanup_in_time _⟩, ?_⟩
  exact ⟨hsummary.1, hsummary.2, hexport.1, hexport.2⟩

end Collector

end RayTally
