import RayTally.Report.Output
import RayTally.Settings.Basic
import RayTally.Workers

/-!
# Collectors

A collector goes through three phases. It is made uninitialized, with a closed gate; the first
`init` gives it its settings and makes it active; the first `cleanup` after that prints and
exports what was collected and terminates it. Any other `init` or `cleanup` is ignored with a
warning.

## Main results

* `Collector.init_of_ne`, `Collector.cleanup_of_ne`: what is ignored leaves the collector as it is.
-/

namespace RayTally

/-- The **phases of a collector**. -/
inductive Phase
  | uninitialized
  | active
  | terminated
  deriving DecidableEq, Repr

/-- The name of a phase. -/
def Phase.name : Phase → String
  | uninitialized => "Uninitialized"
  | active => "Active"
  | terminated => "Terminated"

/-- A **collector of statistics**: its gate, counters, settings and phase. -/
structure Collector where
  gate : Gate
  tally : Tally
  settings : Settings
  phase : Phase
  deriving DecidableEq

namespace Collector

/-- A collector as it is made. -/
def new : Collector := ⟨.disabled, .zero, .default, .uninitialized⟩

/-- Warns that a call is ignored. -/
def warnIgnored (c : Collector) (call : String) (h : Host) : Host :=
  h.report .warn (call ++ " called in state " ++ c.phase.name ++ ", ignoring")

/-! ### The life of a collector -/

/-- The collector that settings make. Counters start from zero if they are used. -/
def started (c : Collector) (s : Settings) : Collector where
  gate := s.gate
  tally := if s.gate.isEnabled then .zero else c.tally
  settings := s
  phase := .active

/-- **Starts** the collector with settings. -/
def init (c : Collector) (s : Settings) (h : Host) : Collector × Host :=
  if c.phase ≠ .uninitialized then (c, c.warnIgnored "init" h)
  else
    (c.started s, h.report .info
      ("Ray intersection statistics collection " ++
        if s.gate.isEnabled then "ENABLED" else "DISABLED"))

/-- Prints the summary of what was collected. -/
def print (c : Collector) (lead : String) (h : Host) : Host := Summary.print lead c.tally h

/-- Saves what was collected to a file and logs the outcome. -/
def save (c : Collector) (p : Path) (h : Host) : Host := Export.saveLogged c.tally p h

/-- Prints and exports what was collected. -/
def conclude (c : Collector) (h : Host) : Host :=
  c.save c.settings.resolvedOutputPath (c.print "Final " h)

/-- **Terminates** the collector. If it was enabled, what it collected is printed and exported. -/
def cleanup (c : Collector) (h : Host) : Collector × Host :=
  if c.phase ≠ .active then (c, c.warnIgnored "cleanup" h)
  else ({ c with phase := .terminated }, if c.gate.isEnabled then c.conclude h else h)

/-! ### Counting -/

/-- Makes an update. -/
def update (c : Collector) (u : Update) : Collector :=
  { c with tally := c.tally.apply (u.additions c.gate) }

/-- Lets workers make their updates. -/
def work (c : Collector) (scripts : List Script) : Collector :=
  { c with tally := c.tally.work c.gate scripts }

/-- Sets all counters to zero. -/
def clear (c : Collector) : Collector := { c with tally := .zero }

/-- Sets all counters to zero and logs it. -/
def reset (c : Collector) (h : Host) : Collector × Host :=
  (c.clear, h.report .trace "Resetting counters")

/-! ### What is ignored -/

/-- Only an uninitialized collector is started. -/
theorem init_of_ne {c : Collector} (hc : c.phase ≠ .uninitialized) (s : Settings) (h : Host) :
    c.init s h = (c, c.warnIgnored "init" h) := by
  simp [init, hc]

/-- Only an active collector is terminated. -/
theorem cleanup_of_ne {c : Collector} (hc : c.phase ≠ .active) (h : Host) :
    c.cleanup h = (c, c.warnIgnored "cleanup" h) := by
  simp [cleanup, hc]

end Collector

end RayTally
