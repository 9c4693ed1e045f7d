import RayTally.Proofs.Outputs

/-!
# What becomes of outputs

A record is told by its line, but only where the logger in force lets it through. So the console
shows the records that pass the threshold and all summaries, in the order in which they were put
out. A file holds the last export to it, and behind that the records since then if it is the log
file. Who reads the console and the files finds nothing of other records.

A console that is full goes on showing what it showed, and a file that can hold no more keeps what
it holds. So each of them ends with the first bytes of what it is told, up to its limit, and neither
depends on the other.

## Main results

* `Host.log_of_not_passes`: a record that does not pass changes nothing.
* `Host.Received.take`: what becomes of one output.
* `Host.received_takeAll`: what becomes of any number of them.
-/

namespace RayTally

open FileSystem
open Sink (kept)

/-! ### What passes -/

/-- The **levels that pass**, the most severe first. -/
def Threshold.levels : Threshold → List Level
  | .off => []
  | .upTo .error => [.error]
  | .upTo .warn => [.error, .warn]
  | .upTo .info => [.error, .warn, .info]
  | .upTo .debug => [.error, .warn, .info, .debug]
  | .upTo .trace => [.error, .warn, .info, .debug, .trace]

/-- What is **at least as severe** as a threshold passes it. -/
theorem Threshold.allows_iff (t : Threshold) (l : Level) : t.allows l = true ↔ l ∈ t.levels := by
  cases t with
  | off => simp [allows, levels]
  | upTo m => cases m <;> cases l <;> decide

/-- The **tag** of a level in a line. -/
def Level.tag : Level → String
  | .error => "ERROR"
  | .warn => "WARN"
  | .info => "INFO"
  | .debug => "DEBUG"
  | .trace => "TRACE"

/-- The **line of a record**: when it was made, its level, where it was made, and its message. -/
def Record.line (r : Record) (stamp : Stamp) : Bytes :=
  Utf8.ofString ("[" ++ stamp.date ++ "][" ++ stamp.time ++ "][" ++ r.level.tag ++ "][" ++
    r.target ++ ":" ++ stamp.line ++ "] " ++ r.message ++ "\n")

/-- The **text that is logged** of a record is its line. -/
theorem Record.ofString_text (r : Record) (stamp : Stamp) :
    Utf8.ofString (r.text stamp) = r.line stamp := by
  obtain ⟨level, target, message⟩ := r
  cases level <;> rfl

namespace Logger

/-- The **log file** of a logger, if it has one. -/
def file? : Logger → Option Location
  | .installed _ file => file
  | _ => none

/-- The **levels of the records** of which a logger tells. -/
def levels : Logger → List Level
  | .installed threshold _ => threshold.levels
  | _ => []

/-- The line by which a logger **tells of a record**, or nothing if the record does not pass. -/
def line (logger : Logger) (stamp : Stamp) (r : Record) : Bytes :=
  if r.level ∈ logger.levels then r.line stamp else []

end Logger

/-! ### What is shown and held -/

namespace Output

/-- What the **console** shows of an output. -/
def shown (logger : Logger) (stamp : Stamp) : Output → Bytes
  | .record r => logger.line stamp r
  | .summary lead t => Summary.bytes lead t
  | .exported _ _ | .opened _ => []

/-- What a **file** holds after an output to a host, if it held `content` before and can hold as
much as the limit says. -/
def contentAfter (limit : Option ℕ) (logger : Logger) (stamp : Stamp) (m : Location)
    (content : Option Bytes) (h : Host) : Output → Option Bytes
  | .record r =>
    if logger.file? = some m then content.map (kept limit · (logger.line stamp r)) else content
  | .summary _ _ => content
  | .exported t p =>
    if h.files.resolve .create p = .ok m then some (kept limit [] (Export.bytes t)) else content
  | .opened path => if h.logTarget path = .ok (some m) then some (content.getD []) else content

/-- What a **log file** is told by an output. -/
def logged (logger : Logger) (stamp : Stamp) : Output → Bytes
  | .record r => logger.line stamp r
  | .summary _ _ | .exported _ _ | .opened _ => []

/-- The output is an **export to a location**. -/
def ExportsTo (h : Host) (m : Location) : Output → Prop
  | .exported _ p => h.files.resolve .create p = .ok m
  | .record _ | .summary _ _ | .opened _ => False

end Output

/-- **Outputs**, each with the host that takes it. -/
abbrev Deliveries := List (Host × Output)

namespace Deliveries

variable {os os' : Deliveries} {limit : Option ℕ} {logger : Logger} {stamp : Stamp}
  {m : Location} {content : Option Bytes}

/-- What the **console** is to show. -/
def shown (os : Deliveries) (logger : Logger) (stamp : Stamp) : Bytes :=
  os.flatMap fun o => o.2.shown logger stamp

/-- What a **file** holds in the end, if it held `content` at first. -/
def contentAfter (os : Deliveries) (limit : Option ℕ) (logger : Logger) (stamp : Stamp)
    (m : Location) (content : Option Bytes) : Option Bytes :=
  os.foldl (fun content o => o.2.contentAfter limit logger stamp m content o.1) content

/-- What a **log file** is told. -/
def logged (os : Deliveries) (logger : Logger) (stamp : Stamp) : Bytes :=
  os.flatMap fun o => o.2.logged logger stamp

theorem shown_append (os os' : Deliveries) (logger : Logger) (stamp : Stamp) :
    shown (os ++ os') logger stamp = os.shown logger stamp ++ os'.shown logger stamp :=
  List.flatMap_append

theorem contentAfter_append (os os' : Deliveries) (content : Option Bytes) :
    contentAfter (os ++ os') limit logger stamp m content =
      os'.contentAfter limit logger stamp m (os.contentAfter limit logger stamp m content) :=
  List.foldl_append

/-- Without exports to it, a log file holds what it held and **what it is told**, as far as there is
room for it. -/
theorem contentAfter_some (hfile : logger.file? = some m) (hno : ∀ o ∈ os, ¬o.2.ExportsTo o.1 m)
    (old : Bytes) : os.contentAfter limit logger stamp m (some old) =
      some (kept limit old (os.logged logger stamp)) := by
  induction os generalizing old with
  | nil => exact congrArg some (Sink.kept_nil limit old).symm
  | cons o os ih =>
    have hone : o.2.contentAfter limit logger stamp m (some old) o.1 =
        some (kept limit old (o.2.logged logger stamp)) := by
      have ho := hno o List.mem_cons_self
      cases houtput : o.2 with
      | record r => simp [Output.contentAfter, Output.logged, hfile]
      | summary lead t => simp [Output.contentAfter, Output.logged, Sink.kept_nil]
      | exported t p =>
        rw [houtput, Output.ExportsTo] at ho
        rw [Output.contentAfter, if_neg ho, Output.logged, Sink.kept_nil]
      | opened path => simp [Output.contentAfter, Output.logged, Sink.kept_nil]
    have hrest := ih (fun o' ho' => hno o' (List.mem_cons_of_mem o ho'))
      (kept limit old (o.2.logged logger stamp))
    rw [contentAfter, List.foldl_cons, hone, ← contentAfter, hrest, Sink.kept_kept, logged, logged,
      List.flatMap_cons]

end Deliveries

/-! ### One output -/

namespace Host

variable {h h' h'' : Host} {os os' : Deliveries} {o : Output} {r : Record} {m : Location}

/-- Outputs, each with the **host that takes it**. -/
def trace (h : Host) : List Output → Deliveries
  | [] => []
  | o :: os => (h, o) :: (h.take o).trace os

/-- A record that **does not pass** changes nothing. -/
theorem log_of_not_passes (hno : ∀ records, h.logger ≠ .collecting records)
    (hr : r.level ∉ h.logger.levels) : h.log r = h := by
  rw [log]
  cases hlogger : h.logger with
  | absent => rfl
  | collecting records => exact absurd hlogger (hno records)
  | installed threshold file =>
    rw [hlogger] at hr
    exact if_neg fun hallows => hr ((threshold.allows_iff r.level).mp hallows)

/-- A record that **passes** is printed, and appended to the log file if there is one. -/
theorem log_of_passes (hr : r.level ∈ h.logger.levels) : h.log r =
    h.withOutput (h.console.writeAll (r.line h.stamp)).2
      (h.logger.file?.elim h.files fun l => (h.files.append l (r.line h.stamp)).2) := by
  rw [log]
  cases hlogger : h.logger with
  | absent | collecting records =>
    rw [hlogger] at hr
    cases hr
  | installed threshold file =>
    rw [hlogger] at hr
    dsimp only
    rw [if_pos ((threshold.allows_iff r.level).mpr hr), r.ofString_text]
    cases file <;> rfl

/-- **What has become of outputs.**

* The logger is the same.
* The console has come to what it comes to if what it is to show is written to it.
* Where there was a file or nothing there still is, and the file holds what the outputs make of it.
  -/
structure Received (h h' : Host) (os : Deliveries) : Prop where
  logger : h'.logger = h.logger
  stamp : h'.stamp = h.stamp
  largestFile : h'.files.largestFile = h.files.largestFile
  console : h.console.chunk ≠ some 0 → h'.console = h.console.after (os.shown h.logger h.stamp)
  holdsFile : ∀ m, h.files.HoldsFile m → h'.files.HoldsFile m
  content? : ∀ m, h.files.HoldsFile m → h'.files.content? m =
    os.contentAfter h.files.largestFile h.logger h.stamp m (h.files.content? m)

namespace Received

theorem refl (h : Host) : h.Received h [] where
  logger := rfl
  stamp := rfl
  largestFile := rfl
  console _ := (Sink.after_nil h.console).symm
  holdsFile _ hm := hm
  content? _ _ := rfl

/-- What becomes of outputs **after others**. -/
theorem trans (hr : h.Received h' os) (hr' : h'.Received h'' os') : h.Received h'' (os ++ os') where
  logger := hr'.logger.trans hr.logger
  stamp := hr'.stamp.trans hr.stamp
  largestFile := hr'.largestFile.trans hr.largestFile
  console hchunk := by
    have hfirst := hr.console hchunk
    have hsecond := hr'.console
    rw [hfirst, hr.logger, hr.stamp] at hsecond
    rw [hsecond hchunk, Sink.after_after, Deliveries.shown_append]
  holdsFile m hm := hr'.holdsFile m (hr.holdsFile m hm)
  content? m hm := by
    have hsecond := hr'.content? m (hr.holdsFile m hm)
    rw [hr.logger, hr.stamp, hr.largestFile, hr.content? m hm] at hsecond
    rw [Deliveries.contentAfter_append]
    exact hsecond

/-- What becomes of **one output**, by what it does to the console and to files. -/
theorem single (hlogger : h'.logger = h.logger) (hstamp : h'.stamp = h.stamp)
    (hlargest : h'.files.largestFile = h.files.largestFile)
    (hconsole : h.console.chunk ≠ some 0 →
      h'.console = h.console.after (o.shown h.logger h.stamp))
    (hfile : ∀ m, h.files.HoldsFile m → h'.files.HoldsFile m)
    (hcontent : ∀ m, h.files.HoldsFile m → h'.files.content? m =
      o.contentAfter h.files.largestFile h.logger h.stamp m (h.files.content? m) h) :
    h.Received h' [(h, o)] := by
  have hshown : Deliveries.shown [(h, o)] h.logger h.stamp = o.shown h.logger h.stamp :=
    List.flatMap_singleton _ _
  refine ⟨hlogger, hstamp, hlargest, ?_, hfile, hcontent⟩
  rw [hshown]
  exact hconsole

/-- **A record** is told on the console and in the log file if it passes, and nowhere if it does
not. -/
theorem log (hno : ∀ records, h.logger ≠ .collecting records) (r : Record) :
    h.Received (h.log r) [(h, .record r)] := by
  by_cases hr : r.level ∈ h.logger.levels
  · have hline : h.logger.line h.stamp r = r.line h.stamp := if_pos hr
    have hsame := sameTree_log h r
    rw [log_of_passes hr] at hsame ⊢
    refine .single rfl rfl hsame.largestFile (fun hchunk => ?_)
      (fun m hm => hsame.grown.holdsFile hm) fun m _ => ?_
    · rw [Output.shown, hline, withOutput, Sink.writeAll_eq hchunk]
    · rw [Output.contentAfter, hline, withOutput]
      cases h.logger.file? with
      | none => rfl
      | some l =>
        simp only [Option.elim_some, content?_append, Option.some.injEq, eq_comm]
  · have hline : h.logger.line h.stamp r = [] := if_neg hr
    rw [log_of_not_passes hno hr]
    refine .single rfl rfl rfl (fun _ => ?_) (fun m hm => hm) fun m _ => ?_
    · rw [Output.shown, hline, Sink.after_nil]
    · rw [Output.contentAfter, hline]
      simp [Sink.kept_nil]

/-- **A summary** is shown on the console. -/
theorem summary (h : Host) (lead : String) (t : Tally) :
    h.Received (h.take (.summary lead t)) [(h, .summary lead t)] := by
  refine .single rfl rfl rfl (fun hchunk => ?_) (fun m hm => hm) fun _ _ => rfl
  rw [Output.shown, ← Summary.bytes_eq, Host.take, withOutput, Summary.write,
    Sink.writePieces_eq hchunk, Sink.writeAll_eq hchunk]

/-- **An export** replaces what is in its file. -/
theorem exported (h : Host) (t : Tally) (p : Path) :
    h.Received (h.take (.exported t p)) [(h, .exported t p)] :=
  .single rfl rfl (Export.largestFile_save t p h.files)
    (fun _ => (Sink.after_nil h.console).symm) (fun _ hm => Export.holdsFile_save hm)
    fun _ hm => Export.content?_save hm

/-- **A log file that is opened** is there, with what it held. -/
theorem opened (h : Host) (path : Option Path) :
    h.Received (h.take (.opened path)) [(h, .opened path)] := by
  have hnothing : h.console = h.console.after [] := (Sink.after_nil h.console).symm
  rw [Host.take]
  cases htarget : h.logTarget path with
  | error e =>
    rw [openLog_of_error htarget]
    refine .single rfl rfl rfl (fun _ => hnothing) (fun _ hm => hm) fun m _ => ?_
    have hno : Except.error e ≠ (Except.ok (some m) : Except Failure (Option Location)) := by
      rintro ⟨⟩
    rw [Output.contentAfter, htarget, if_neg hno]
  | ok file =>
    have hopened := opened_openLog htarget
    refine .single hopened.logger hopened.stamp hopened.largestFile
      (fun _ => hopened.console.trans hnothing) (fun _ hm => hopened.holdsFile hm) fun m hm => ?_
    rw [Output.contentAfter, htarget, hopened.content? hm]
    exact if_congr (Except.ok.injEq file (some m)).symm.to_iff rfl rfl

/-- **What becomes of one output.** -/
theorem take (hno : ∀ records, h.logger ≠ .collecting records) (o : Output) :
    h.Received (h.take o) [(h, o)] := by
  cases o with
  | record r => exact .log hno r
  | summary lead t => exact .summary h lead t
  | exported t p => exact .exported h t p
  | opened path => exact .opened h path

end Received

/-! ### Any number of outputs -/

/-- **What becomes of any number of outputs.** -/
theorem received_takeAll (hno : ∀ records, h.logger ≠ .collecting records) (os : List Output) :
    h.Received (h.takeAll os) (h.trace os) := by
  induction os generalizing h with
  | nil => exact .refl h
  | cons o os ih =>
    have hone := Received.take hno o
    exact hone.trans (ih (hone.logger ▸ hno))

/-- All hosts that take outputs have **the same logger**. -/
theorem logger_of_mem_trace (hno : ∀ records, h.logger ≠ .collecting records) {os : List Output}
    {o : Host × Output} (ho : o ∈ h.trace os) : o.1.logger = h.logger := by
  induction os generalizing h with
  | nil => cases ho
  | cons o' os ih =>
    have hone := Received.take hno o'
    rcases List.mem_cons.mp ho with rfl | ho
    · rfl
    · exact (ih (hone.logger ▸ hno) ho).trans hone.logger

end Host

end RayTally
