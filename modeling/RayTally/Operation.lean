import RayTally.Collector
import RayTally.Settings.Storage

/-!
# Operations on a collector

Everything that can be done with a collector, as data, and what each of it answers. A run is a
list of operations.

## Main results

* `Collector.run_append`: a run is made of its parts.
-/

namespace RayTally

/-- What can be **done with a collector**. -/
inductive Operation
  | init (s : Settings)
  | initFromYaml (text : List Char)
  | initFromFile (p : Path)
  | cleanup
  | reset
  | clear
  | update (u : Update)
  | work (scripts : List Script)
  | get (c : Counter)
  | snapshot
  | settings
  | issues
  | efficiency
  | writeSummary (lead : String) (sink : Sink)
  | writeExport (sink : Sink)
  | print (lead : String)
  | save (p : Path)
  | trySave (p : Path)
  | load (p : Path)
  | loadSettings (p : Path)

/-- What an operation **answers**. -/
inductive Answer
  | nothing
  | value (n : UInt64)
  | tally (t : Tally)
  | settings (s : Settings)
  | texts (ss : List String)
  | efficiency (e : Efficiency)
  | written (r : Except Failure Unit) (sink : Sink)
  | failed (e : Failure)
  | badYaml (e : Settings.YamlError)
  | notLoaded (e : LoadError Import.ImportError)
  | settingsNotLoaded (e : LoadError Settings.YamlError)
  | bytes (bs : Bytes)
  | paths (ps : List Bytes)
  | threshold (t : Threshold)
  | noLogger (e : LoggerError)

/-- The answer to what can fail and else answers nothing. -/
def Answer.ofOutcome : Except Failure Unit → Answer
  | .ok () => nothing
  | .error e => failed e

namespace Collector

/-- Does nothing but answer. -/
def answer (c : Collector) (h : Host) (a : Answer) : Answer × Collector × Host := (a, c, h)

/-- **Performs** an operation. -/
def perform (c : Collector) (h : Host) : Operation → Answer × Collector × Host
  | .init s => (.nothing, c.init s h)
  | .initFromYaml text =>
    match Settings.ofYaml text with
    | .ok s => (.nothing, c.init s h)
    | .error e => c.answer h (.badYaml e)
  | .initFromFile p =>
    match Settings.load h.files p with
    | .ok s => (.nothing, c.init s h)
    | .error e => c.answer h (.settingsNotLoaded e)
  | .cleanup => (.nothing, c.cleanup h)
  | .reset => (.nothing, c.reset h)
  | .clear => (.nothing, c.clear, h)
  | .update u => (.nothing, c.update u, h)
  | .work scripts => (.nothing, c.work scripts, h)
  | .get k => c.answer h (.value (c.tally.get k))
  | .snapshot => c.answer h (.tally c.tally)
  | .settings => c.answer h (.settings c.settings)
  | .issues => c.answer h (.texts c.tally.issues)
  | .efficiency => c.answer h (.efficiency (.ofTally c.tally))
  | .writeSummary lead sink =>
    let (r, s) := Summary.write lead c.tally sink
    c.answer h (.written r s)
  | .writeExport sink =>
    let (r, s) := Export.write c.tally sink
    c.answer h (.written r s)
  | .print lead => (.nothing, c, c.print lead h)
  | .save p => (.nothing, c, c.save p h)
  | .trySave p =>
    let (r, h) := Export.saveOn c.tally p h
    (.ofOutcome r, c, h)
  | .load p =>
    match Import.load h.files p with
    | .ok t => c.answer h (.tally t)
    | .error e => c.answer h (.notLoaded e)
  | .loadSettings p =>
    match Settings.load h.files p with
    | .ok s => c.answer h (.settings s)
    | .error e => c.answer h (.settingsNotLoaded e)

/-- The collector and its host after operations, one after the other. -/
def run (c : Collector) (h : Host) (ops : List Operation) : Collector × Host :=
  ops.foldl (fun s op => (s.1.perform s.2 op).2) (c, h)

/-- A run is made of its parts. -/
theorem run_append (c : Collector) (h : Host) (ops ops' : List Operation) :
    c.run h (ops ++ ops') = (c.run h ops).1.run (c.run h ops).2 ops' := by
  simp [run]

end Collector

end RayTally
