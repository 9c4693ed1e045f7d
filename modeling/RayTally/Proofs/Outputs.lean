import RayTally.Operation
import RayTally.Proofs.Cleanup
import RayTally.Proofs.Files.Contents

/-!
# What operations put out

Whatever an operation does to its host, the host sees of it only three things: records, summaries
and exports. This module says for every operation which of them it puts out, in order. A host also
sees log files that are opened, which is the doing of the program around the collectors.

## Main results

* `Summary.host_print`: printing puts out warnings, the summary, and a record if it is not taken.
* `Export.host_saveLogged`: saving puts out the export and a record of how that went.
* `Collector.host_perform`: what an operation does to its host is to put out its outputs.
-/

namespace RayTally

open FileSystem

/-! ### Outputs -/

/-- **What is put out** to a host: a record, a summary for the console, an export to a file, or the
path of a log file that is to be opened. -/
inductive Output
  | record (r : Record)
  | summary (lead : String) (t : Tally)
  | exported (t : Tally) (p : Path)
  | opened (path : Option Path)

namespace Output

/-- The output is a summary. -/
def isSummary : Output → Bool
  | .summary _ _ => true
  | _ => false

/-- The output is an export. -/
def isExport : Output → Bool
  | .exported _ _ => true
  | _ => false

/-- The output is **for readers**, and leaves files to the logger. -/
def IsTold : Output → Prop
  | .record _ | .summary _ _ => True
  | .exported _ _ | .opened _ => False

end Output

namespace Host

variable {h : Host}

/-- The host after an export was saved, before anything is logged of it. -/
def saved (h : Host) (t : Tally) (p : Path) : Host :=
  { h with files := (Export.save t p h.files).2 }

/-- The host **after an output**. -/
def take (h : Host) : Output → Host
  | .record r => h.log r
  | .summary lead t => h.withOutput (Summary.write lead t h.console).2 h.files
  | .exported t p => h.saved t p
  | .opened path => (h.openLog path).2

/-- The host after outputs, one after the other. -/
def takeAll (h : Host) (os : List Output) : Host := os.foldl take h

theorem takeAll_cons (h : Host) (o : Output) (os : List Output) :
    h.takeAll (o :: os) = (h.take o).takeAll os := rfl

theorem takeAll_append (h : Host) (os os' : List Output) :
    h.takeAll (os ++ os') = (h.takeAll os).takeAll os' :=
  List.foldl_append

theorem takeAll_map_record (h : Host) (rs : List Record) :
    h.takeAll (rs.map .record) = h.logAll rs := by
  rw [takeAll, logAll, List.foldl_map]
  rfl

/-- What is told **changes only what files hold**. -/
theorem sameTree_takeAll {os : List Output} (hos : ∀ o ∈ os, o.IsTold) :
    SameTree h.files (h.takeAll os).files := by
  induction os generalizing h with
  | nil => exact .refl h.files
  | cons o os ih =>
    have hrest := ih (h := h.take o) fun o' ho' => hos o' (List.mem_cons_of_mem o ho')
    have ho := hos o List.mem_cons_self
    cases o with
    | record r => exact (sameTree_log h r).trans hrest
    | summary lead t => exact hrest
    | exported t p => exact ho.elim
    | opened path => exact ho.elim

end Host

/-! ### Printing and saving -/

namespace Summary

variable {lead : String} {t : Tally} {h : Host} {o : Output}

/-- The record of a summary that the console **does not take**. -/
def failures (lead : String) (t : Tally) (console : Sink) : List Record :=
  match (write lead t console).1 with
  | .ok () => []
  | .error why => [.ofLibrary .error ("Failed to print statistics: " ++ why.message)]

/-- What **printing** puts out: the warnings, the summary, and a record if the console does not take
all of it. -/
def outputs (lead : String) (t : Tally) (h : Host) : List Output :=
  t.warnings.map .record ++ .summary lead t ::
    (failures lead t (h.logAll t.warnings).console).map .record

/-- **What printing does to its host** is to put out its outputs. -/
theorem host_print (lead : String) (t : Tally) (h : Host) :
    Summary.print lead t h = h.takeAll (outputs lead t h) := by
  rw [outputs, Host.takeAll_append, Host.takeAll_map_record, Host.takeAll_cons,
    Host.takeAll_map_record, print, t.logIssues_eq, Host.take, failures]
  cases write lead t (h.logAll t.warnings).console with
  | mk r console => cases r <;> rfl

/-- All of it is told. -/
theorem isTold_of_mem_outputs (ho : o ∈ outputs lead t h) : o.IsTold := by
  rcases List.mem_append.mp ho with ho | ho
  · obtain ⟨r, -, rfl⟩ := List.mem_map.mp ho
    trivial
  · rcases List.mem_cons.mp ho with rfl | ho
    · trivial
    · obtain ⟨r, -, rfl⟩ := List.mem_map.mp ho
      trivial

end Summary

namespace Export

/-- What **saving** puts out: the export, and then the record of how that went. -/
def outputs (t : Tally) (p : Path) (fs : FileSystem) : List Output :=
  [.exported t p, .record (record p (save t p fs).1)]

/-- **What saving does to its host** is to put out its outputs. What files held before does not
matter to how it ends. -/
theorem host_saveLogged {fs : FileSystem} {h : Host} (hsame : SameTree fs h.files) (t : Tally)
    (p : Path) : saveLogged t p h = h.takeAll (outputs t p fs) := by
  rw [saveLogged_eq, outputs, outcome_save_of_sameTree hsame]
  rfl

end Export

/-! ### Operations -/

namespace Collector

/-- The record of a call that is ignored. -/
def ignoredRecord (c : Collector) (call : String) : Record :=
  .ofLibrary .warn (call ++ " called in state " ++ c.phase.name ++ ", ignoring")

/-- The record of a start. -/
def initRecord (c : Collector) (s : Settings) : Record :=
  if c.phase ≠ .uninitialized then c.ignoredRecord "init"
  else .ofLibrary .info ("Ray intersection statistics collection " ++
    if s.gate.isEnabled then "ENABLED" else "DISABLED")

/-- What the **end of a collection** puts out: the summary is printed, and the export saved. -/
def finalOutputs (c : Collector) (h : Host) : List Output :=
  Summary.outputs "Final " c.tally h ++ Export.outputs c.tally c.settings.resolvedOutputPath h.files

/-- **What an operation puts out** to the host that it finds. -/
def outputs (c : Collector) (h : Host) : Operation → List Output
  | .init s => [.record (c.initRecord s)]
  | .initFromYaml text =>
    match Settings.ofYaml text with
    | .ok s => [.record (c.initRecord s)]
    | .error _ => []
  | .initFromFile p =>
    match Settings.load h.files p with
    | .ok s => [.record (c.initRecord s)]
    | .error _ => []
  | .cleanup =>
    if c.phase ≠ .active then [.record (c.ignoredRecord "cleanup")]
    else if c.gate.isEnabled then c.finalOutputs h
    else []
  | .reset => [.record (.ofLibrary .trace "Resetting counters")]
  | .print lead => Summary.outputs lead c.tally h
  | .save p => Export.outputs c.tally p h.files
  | .trySave p => [.exported c.tally p]
  | _ => []

theorem host_init (c : Collector) (s : Settings) (h : Host) :
    (c.init s h).2 = h.take (.record (c.initRecord s)) := by
  rw [init, initRecord]
  split <;> rfl

/-- **What is done at the end** is to put out the outputs of the end. -/
theorem host_conclude (c : Collector) (h : Host) : c.conclude h = h.takeAll (c.finalOutputs h) := by
  have hsame : SameTree h.files (h.takeAll (Summary.outputs "Final " c.tally h)).files :=
    Host.sameTree_takeAll fun _ => Summary.isTold_of_mem_outputs
  rw [conclude, save, print, Summary.host_print, finalOutputs, Host.takeAll_append]
  exact Export.host_saveLogged hsame _ _

/-- **What an operation does to its host** is to put out its outputs. -/
theorem host_perform (c : Collector) (op : Operation) (h : Host) :
    (c.perform h op).2.2 = h.takeAll (c.outputs h op) := by
  cases op
  case init s => exact host_init c s h
  case initFromYaml text =>
    rw [perform, outputs]
    cases Settings.ofYaml text with
    | error e => rfl
    | ok s => exact host_init c s h
  case initFromFile p =>
    rw [perform, outputs]
    cases Settings.load h.files p with
    | error e => rfl
    | ok s => exact host_init c s h
  case cleanup =>
    rw [perform, outputs, cleanup]
    split
    · rfl
    · dsimp only
      split
      · exact host_conclude c h
      · rfl
  case reset => rfl
  case print lead => exact Summary.host_print lead c.tally h
  case save p => exact Export.host_saveLogged (.refl h.files) c.tally p
  case trySave p => rfl
  case load p =>
    rw [perform]
    cases Import.load h.files p <;> rfl
  case loadSettings p =>
    rw [perform]
    cases Settings.load h.files p <;> rfl
  all_goals rfl

end Collector

end RayTally
