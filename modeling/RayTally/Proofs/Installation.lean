import RayTally.Proofs.Delivery
import RayTally.Session

/-!
# Installing a logger

A host without a logger gets one from the first call whose log file can be opened. A call opens its
log file before it finds out whether there is a logger, and each of the two can fail. This module
follows any number of such calls, between any operations on collectors and records of the program
around them.

What a call can do to the logger is said once, in `Host.setupLogger_of_error`,
`Host.setupLogger_of_absent` and `Host.setupLogger_of_installed`. Nothing else does anything to it.
So a session has two parts, one before the call that installs a logger and one behind it, and in
each of them the logger is the same all the time.

## Main results

* `Session.host_perform`: what does not install a logger puts out its outputs.
* `Session.received_run`: what becomes of the outputs of a run, as long as the logger is the same.
* `Session.exists_installed`: after the first call whose log file can be opened there is its logger.
* `Session.logger_run`: how each call ends, and what is told of records before and after.
-/

namespace RayTally

open FileSystem
open Sink (Room kept)

/-! ### Calls -/

namespace Host

variable {h : Host} {threshold : Threshold} {path : Option Path} {file : Option Location}
  {e : Failure}

/-- A log file that **cannot be opened** is all that a call finds out. -/
theorem setupLogger_of_error (he : h.logTarget path = .error e) (threshold : Threshold) :
    h.setupLogger threshold path = (.error (.cannotOpen e), h) := by
  have hsame := openLog_of_error he
  rw [← openLog_fst] at he
  rw [setupLogger]
  rcases hopen : h.openLog path with ⟨r, h'⟩
  rw [hopen] at he hsame
  cases he
  cases hsame
  rfl

/-- The **first call** whose log file can be opened installs its logger. -/
theorem setupLogger_of_absent (ho : h.logTarget path = .ok file) (hl : h.logger = .absent)
    (threshold : Threshold) : h.setupLogger threshold path =
      (.ok threshold, { h.take (.opened path) with logger := .installed threshold file }) := by
  have hlogger : (h.openLog path).2.logger = h.logger := (opened_openLog ho).logger
  rw [hl] at hlogger
  rw [← openLog_fst] at ho
  rw [take, setupLogger]
  rcases hopen : h.openLog path with ⟨r, h'⟩
  rw [hopen] at ho hlogger
  cases ho
  dsimp only at hlogger ⊢
  rw [hlogger]

/-- A **later call** whose log file can be opened leaves the logger. -/
theorem setupLogger_of_installed {threshold' : Threshold} {file' : Option Location}
    (ho : h.logTarget path = .ok file) (hl : h.logger = .installed threshold' file')
    (threshold : Threshold) :
    h.setupLogger threshold path = (.error .alreadyInstalled, h.take (.opened path)) := by
  have hlogger : (h.openLog path).2.logger = h.logger := (opened_openLog ho).logger
  rw [hl] at hlogger
  rw [← openLog_fst] at ho
  rw [take, setupLogger]
  rcases hopen : h.openLog path with ⟨r, h'⟩
  rw [hopen] at ho hlogger
  cases ho
  dsimp only at hlogger ⊢
  rw [hlogger]

end Host

/-! ### Actions -/

/-- The action **leaves files** to the collectors and to loggers. -/
def Action.LeavesFiles : Action → Prop
  | .host (.write _ _) | .host (.remove _) | .host (.makeDirectory _) => False
  | _ => True

namespace Session

variable {s : Session} {a : Action} {as : List Action} {n : ℕ} {threshold : Threshold}
  {path : Option Path} {file : Option Location} {e : Failure}

theorem perform_of_error (he : s.host.logTarget path = .error e) (threshold : Threshold) :
    s.perform (.host (.setupLogger threshold path)) = (.noLogger (.cannotOpen e), s) := by
  rw [perform, Host.perform, Host.setupLogger_of_error he]

theorem perform_of_absent (ho : s.host.logTarget path = .ok file) (hl : s.host.logger = .absent)
    (threshold : Threshold) : s.perform (.host (.setupLogger threshold path)) =
      (.threshold threshold, { s with
        host := { s.host.take (.opened path) with logger := .installed threshold file } }) := by
  rw [perform, Host.perform, Host.setupLogger_of_absent ho hl]

theorem perform_of_installed {threshold' : Threshold} {file' : Option Location}
    (ho : s.host.logTarget path = .ok file) (hl : s.host.logger = .installed threshold' file')
    (threshold : Threshold) : s.perform (.host (.setupLogger threshold path)) =
      (.noLogger .alreadyInstalled, { s with host := s.host.take (.opened path) }) := by
  rw [perform, Host.perform, Host.setupLogger_of_installed ho hl]

/-- What an action **puts out**. -/
def outputs (s : Session) : Action → List Output
  | .on i op => (s.collector i).outputs s.host op
  | .host (.log r) => [.record r]
  | .host (.setupLogger _ path) => [.opened path]
  | _ => []

/-- What actions put out, one after the other. -/
def outputsAll (s : Session) : List Action → List Output
  | [] => []
  | a :: as => s.outputs a ++ (s.perform a).2.outputsAll as

/-- The same, each output with the host that takes it. -/
def trace (s : Session) (as : List Action) : Deliveries := s.host.trace (s.outputsAll as)

/-- The action is a call for a logger **whose log file can be opened**. -/
def Opens (s : Session) (a : Action) (threshold : Threshold) (file : Option Location) : Prop :=
  ∃ path, a = .host (.setupLogger threshold path) ∧ s.host.logTarget path = .ok file

/-- The action does not install a logger: there is one, or the action is no call whose log file can
be opened. -/
def KeepsLogger (s : Session) (a : Action) : Prop :=
  s.host.logger = .absent → ∀ threshold file, ¬s.Opens a threshold file

/-- **What does not install a logger** puts out its outputs. -/
theorem host_perform (ha : a.LeavesFiles) (hkeeps : s.KeepsLogger a)
    (hno : ∀ records, s.host.logger ≠ .collecting records) :
    (s.perform a).2.host = s.host.takeAll (s.outputs a) := by
  cases a with
  | on i op => exact Collector.host_perform (s.collector i) op s.host
  | renew i => rfl
  | host a =>
    cases a with
    | read p =>
      rw [perform, Host.perform]
      cases s.host.files.readFile p <;> rfl
    | write | remove | makeDirectory => exact ha.elim
    | list => rfl
    | log r => rfl
    | setupLogger threshold path =>
      cases hopen : s.host.logTarget path with
      | error e =>
        rw [perform_of_error hopen]
        exact (Host.openLog_of_error hopen).symm
      | ok file =>
        cases hlogger : s.host.logger with
        | absent => exact absurd ⟨path, rfl, hopen⟩ (hkeeps hlogger threshold file)
        | collecting records => exact absurd hlogger (hno records)
        | installed threshold' file' =>
          rw [perform_of_installed hopen hlogger]
          rfl

/-- So it **keeps the logger**, or the lack of one. -/
theorem logger_perform (ha : a.LeavesFiles) (hkeeps : s.KeepsLogger a)
    (hno : ∀ records, s.host.logger ≠ .collecting records) :
    (s.perform a).2.host.logger = s.host.logger := by
  rw [host_perform ha hkeeps hno]
  exact (Host.received_takeAll hno _).logger

/-! ### Runs -/

/-- The action at a place of a run is a call for a logger whose log file can be opened. -/
def OpensAt (s : Session) (as : List Action) (n : ℕ) (threshold : Threshold)
    (file : Option Location) : Prop :=
  ∃ a, as[n]? = some a ∧ (s.run (as.take n)).Opens a threshold file

/-- There is **no such call** before a place of a run. -/
def QuietBefore (s : Session) (as : List Action) (n : ℕ) : Prop :=
  ∀ m < n, ∀ threshold file, ¬s.OpensAt as m threshold file

/-- The place of an action is one less for the actions behind the first one. -/
theorem opensAt_succ_iff :
    s.OpensAt (a :: as) (n + 1) threshold file ↔ (s.perform a).2.OpensAt as n threshold file :=
  .rfl

theorem opensAt_zero_iff : s.OpensAt (a :: as) 0 threshold file ↔ s.Opens a threshold file := by
  constructor
  · rintro ⟨b, hb, hopens⟩
    cases hb
    exact hopens
  · exact fun hopens => ⟨a, rfl, hopens⟩

theorem QuietBefore.tail (h : s.QuietBefore (a :: as) (n + 1)) : (s.perform a).2.QuietBefore as n :=
  fun m hm threshold file hopens =>
    h (m + 1) (Nat.succ_lt_succ hm) threshold file (opensAt_succ_iff.mpr hopens)

theorem QuietBefore.keepsLogger (h : s.QuietBefore (a :: as) (n + 1)) : s.KeepsLogger a :=
  fun _ threshold file hopens => h 0 (Nat.succ_pos n) threshold file (opensAt_zero_iff.mpr hopens)

/-- **What a run does to its host** is to put out its outputs, as long as it installs no logger. -/
theorem host_run (has : ∀ a ∈ as, a.LeavesFiles)
    (hquiet : s.host.logger = .absent → s.QuietBefore as as.length)
    (hno : ∀ records, s.host.logger ≠ .collecting records) :
    (s.run as).host = s.host.takeAll (s.outputsAll as) := by
  induction as generalizing s with
  | nil => rfl
  | cons a as ih =>
    have hkeeps : s.KeepsLogger a := fun habsent => (hquiet habsent).keepsLogger habsent
    have hone := host_perform (has a List.mem_cons_self) hkeeps hno
    have hlogger := logger_perform (has a List.mem_cons_self) hkeeps hno
    have hrest := ih (s := (s.perform a).2) (fun b hb => has b (List.mem_cons_of_mem a hb))
      (fun habsent => (hquiet (hlogger ▸ habsent)).tail) (hlogger ▸ hno)
    rw [outputsAll, Host.takeAll_append, ← hone]
    exact hrest

/-- **What becomes of the outputs of a run** as long as it installs no logger. -/
theorem received_run (has : ∀ a ∈ as, a.LeavesFiles)
    (hquiet : s.host.logger = .absent → s.QuietBefore as as.length)
    (hno : ∀ records, s.host.logger ≠ .collecting records) :
    s.host.Received (s.run as).host (s.trace as) := by
  rw [host_run has hquiet hno]
  exact Host.received_takeAll hno (s.outputsAll as)

/-- The session behind an action is that behind the ones before it, after the action. -/
theorem run_take_succ (ha : as[n]? = some a) :
    s.run (as.take (n + 1)) = ((s.run (as.take n)).perform a).2 := by
  rw [List.take_add_one, ha]
  simp [run]

/-- A run is made of its parts. -/
theorem run_take_drop (s : Session) (as : List Action) (n : ℕ) :
    (s.run (as.take n)).run (as.drop n) = s.run as := by
  rw [run, run, ← List.foldl_append, List.take_append_drop]
  rfl

/-- What is put out **behind an action**. -/
def behind (s : Session) (as : List Action) (n : ℕ) : Deliveries :=
  (s.run (as.take (n + 1))).trace (as.drop (n + 1))

/-- **Behind a call that installed a logger** the host only takes outputs. -/
theorem host_behind (has : ∀ a ∈ as, a.LeavesFiles)
    (hcall : (s.run (as.take (n + 1))).host.logger = .installed threshold file) :
    (s.run as).host = (s.run (as.take (n + 1))).host.takeAll
      ((s.run (as.take (n + 1))).outputsAll (as.drop (n + 1))) := by
  have hbehind : ∀ a ∈ as.drop (n + 1), a.LeavesFiles := fun a ha => has a (List.mem_of_mem_drop ha)
  rw [← run_take_drop s as (n + 1)]
  refine host_run hbehind ?_ ?_
  · rw [hcall]
    exact nofun
  · rw [hcall]
    exact nofun

/-- What becomes of these. -/
theorem received_behind (has : ∀ a ∈ as, a.LeavesFiles)
    (hcall : (s.run (as.take (n + 1))).host.logger = .installed threshold file) :
    (s.run (as.take (n + 1))).host.Received (s.run as).host (s.behind as n) := by
  rw [host_behind has hcall]
  refine Host.received_takeAll ?_ _
  rw [hcall]
  exact nofun

/-- Calls at the same places come before and after a run is cut behind them. -/
theorem opensAt_take_iff {m : ℕ} (hm : m < n) :
    s.OpensAt (as.take n) m threshold file ↔ s.OpensAt as m threshold file := by
  rw [OpensAt, OpensAt, List.getElem?_take_of_lt hm, List.take_take,
    Nat.min_eq_left (Nat.le_of_lt hm)]

theorem QuietBefore.take (h : s.QuietBefore as n) :
    s.QuietBefore (as.take n) (as.take n).length := by
  intro m hm threshold file hopens
  have hmn : m < n := Nat.lt_of_lt_of_le hm (List.length_take_le n as)
  exact h m hmn threshold file ((opensAt_take_iff hmn).mp hopens)

/-- **Before** the first call whose log file can be opened there is no logger. -/
theorem absent_of_quietBefore (hlogger : s.host.logger = .absent)
    (has : ∀ a ∈ as, a.LeavesFiles) (hquiet : s.QuietBefore as n) :
    (s.run (as.take n)).host.logger = .absent := by
  have hno : ∀ records, s.host.logger ≠ .collecting records := by
    rw [hlogger]
    exact nofun
  have hreceived := received_run (fun a ha => has a (List.mem_of_mem_take ha))
    (fun _ => hquiet.take) hno
  exact hreceived.logger.trans hlogger

/-- **The first call** whose log file can be opened installs its logger for good. -/
theorem installed_of_opensAt (hlogger : s.host.logger = .absent) (has : ∀ a ∈ as, a.LeavesFiles)
    (hopens : s.OpensAt as n threshold file) (hfirst : s.QuietBefore as n) :
    (s.run (as.take (n + 1))).host.logger = .installed threshold file ∧
      (s.run as).host.logger = .installed threshold file := by
  have hbefore := absent_of_quietBefore hlogger has hfirst
  obtain ⟨a, ha, path, rfl, hopen⟩ := hopens
  have hcall : (s.run (as.take (n + 1))).host.logger = .installed threshold file := by
    rw [run_take_succ ha, perform_of_absent hopen hbefore]
  exact ⟨hcall, (received_behind has hcall).logger.trans hcall⟩

/-- If there is a call whose log file can be opened, there is a **first** one. -/
theorem exists_first_of_not_quietBefore (h : ¬s.QuietBefore as n) :
    ∃ m < n, (∃ threshold file, s.OpensAt as m threshold file) ∧ s.QuietBefore as m := by
  induction n with
  | zero => exact absurd (fun m hm => absurd hm (Nat.not_lt_zero m)) h
  | succ n ih =>
    by_cases hquiet : s.QuietBefore as n
    · refine ⟨n, Nat.lt_succ_self n, ?_, hquiet⟩
      by_contra! hno
      refine h fun m hm threshold file hopens => ?_
      rcases Nat.lt_succ_iff_lt_or_eq.mp hm with hlt | rfl
      · exact hquiet m hlt threshold file hopens
      · exact hno threshold file hopens
    · obtain ⟨m, hm, hfirst⟩ := ih hquiet
      exact ⟨m, Nat.lt_succ_of_lt hm, hfirst⟩

/-- **After such a call** there is a logger. -/
theorem exists_installed (hlogger : s.host.logger = .absent) (has : ∀ a ∈ as, a.LeavesFiles)
    (hearlier : ¬s.QuietBefore as n) :
    ∃ threshold file, (s.run (as.take n)).host.logger = .installed threshold file := by
  obtain ⟨m, hm, ⟨threshold, file, hopens⟩, hfirst⟩ := exists_first_of_not_quietBefore hearlier
  have hfirst' : s.QuietBefore (as.take n) m := fun k hk threshold file hk' =>
    hfirst k hk threshold file ((opensAt_take_iff (Nat.lt_trans hk hm)).mp hk')
  obtain ⟨-, hend⟩ := installed_of_opensAt hlogger
    (fun a ha => has a (List.mem_of_mem_take ha)) ((opensAt_take_iff hm).mpr hopens) hfirst'
  exact ⟨threshold, file, hend⟩

/-! ### How calls end -/

/-- **How a call ends**, given whether there was an earlier one whose log file could be opened. -/
structure CallEnds (s : Session) (threshold : Threshold) (path : Option Path) (earlier : Prop) :
    Prop where
  refused : ∀ e, s.host.logTarget path = .error e →
    s.perform (.host (.setupLogger threshold path)) = (.noLogger (.cannotOpen e), s)
  installed : ∀ file, s.host.logTarget path = .ok file → ¬earlier →
    ∃ h, s.host.Opened file h ∧ s.perform (.host (.setupLogger threshold path)) =
      (.threshold threshold, { s with host := { h with logger := .installed threshold file } })
  ignored : ∀ file, s.host.logTarget path = .ok file → earlier →
    ∃ h, s.host.Opened file h ∧ s.perform (.host (.setupLogger threshold path)) =
      (.noLogger .alreadyInstalled, { s with host := h })

/-- **How the call at a place of a run ends.** -/
theorem callEnds (hlogger : s.host.logger = .absent) (has : ∀ a ∈ as, a.LeavesFiles) (n : ℕ)
    (threshold : Threshold) (path : Option Path) :
    (s.run (as.take n)).CallEnds threshold path (¬s.QuietBefore as n) where
  refused e he := perform_of_error he threshold
  installed file ho hquiet :=
    ⟨_, Host.opened_openLog ho,
      perform_of_absent ho (absent_of_quietBefore hlogger has (not_not.mp hquiet)) threshold⟩
  ignored file ho hearlier := by
    obtain ⟨threshold', file', hinstalled⟩ := exists_installed hlogger has hearlier
    exact ⟨_, Host.opened_openLog ho, perform_of_installed ho hinstalled threshold⟩

/-- The action at a place of a run is a call for a logger that **succeeds**. -/
def SucceedsAt (s : Session) (as : List Action) (n : ℕ) : Prop :=
  ∃ threshold path, as[n]? = some (.host (.setupLogger threshold path)) ∧
    ((s.run (as.take n)).perform (.host (.setupLogger threshold path))).1 = .threshold threshold

/-- **Which calls succeed**: the first one whose log file can be opened, and no other. -/
theorem succeedsAt_iff (hlogger : s.host.logger = .absent) (has : ∀ a ∈ as, a.LeavesFiles) (n : ℕ) :
    s.SucceedsAt as n ↔ (∃ threshold file, s.OpensAt as n threshold file) ∧ s.QuietBefore as n := by
  constructor
  · rintro ⟨threshold, path, hcall, hanswer⟩
    have hends := callEnds hlogger has n threshold path
    cases hopen : (s.run (as.take n)).host.logTarget path with
    | error e =>
      rw [hends.refused e hopen] at hanswer
      cases hanswer
    | ok file =>
      refine ⟨⟨threshold, file, _, hcall, path, rfl, hopen⟩, not_not.mp fun hearlier => ?_⟩
      obtain ⟨h, -, hignored⟩ := hends.ignored file hopen hearlier
      rw [hignored] at hanswer
      cases hanswer
  · rintro ⟨⟨threshold, file, a, ha, path, rfl, hopen⟩, hquiet⟩
    refine ⟨threshold, path, ha, ?_⟩
    obtain ⟨h, -, hinstalled⟩ :=
      (callEnds hlogger has n threshold path).installed file hopen (not_not_intro hquiet)
    rw [hinstalled]

/-! ### What is told of records -/

/-- **Before a logger is installed** records are told nowhere: logging one changes nothing. -/
structure Precedes (s : Session) (as : List Action) (n : ℕ) : Prop where
  logger : (s.run (as.take n)).host.logger = .absent
  received : s.host.Received (s.run (as.take n)).host (s.trace (as.take n))
  silent : ∀ o ∈ s.trace (as.take n), ∀ r, o.2 = .record r → o.1.take o.2 = o.1

/-- **Behind the call that installs a logger** that logger stays, and records are told by it.

* What happens to the host is that the outputs are put out to it.
* A record that is less severe than the threshold changes nothing.
* What the console shows are the lines of all other records, and the summaries. It is all of that if
  there is room for it, and else as much as there is room for.
* What the log file holds are the lines of these records behind what it held, in the same way. An
  export to the file replaces what it holds, and the lines of the records behind that follow. -/
structure Follows (s : Session) (as : List Action) (n : ℕ) (threshold : Threshold)
    (file : Option Location) : Prop where
  logger : (s.run as).host.logger = .installed threshold file
  host : (s.run as).host =
    (s.run (as.take (n + 1))).host.takeAll ((s.run (as.take (n + 1))).outputsAll (as.drop (n + 1)))
  silent : ∀ o ∈ s.behind as n, ∀ r, o.2 = .record r → r.level ∉ threshold.levels →
    o.1.take o.2 = o.1
  console : (s.run (as.take n)).host.console.chunk ≠ some 0 →
    (s.run as).host.console = (s.run (as.take n)).host.console.after
      ((s.behind as n).shown (.installed threshold file) s.host.stamp)
  console_of_fits : (s.run (as.take n)).host.console.chunk ≠ some 0 →
    (s.run (as.take n)).host.console.Fits
        ((s.behind as n).shown (.installed threshold file) s.host.stamp).length →
      (s.run as).host.console.written = (s.run (as.take n)).host.console.written ++
        (s.behind as n).shown (.installed threshold file) s.host.stamp
  content? : ∀ m, (s.run (as.take (n + 1))).host.files.HoldsFile m →
    (s.run as).host.files.content? m =
      (s.behind as n).contentAfter s.host.files.largestFile (.installed threshold file)
        s.host.stamp m ((s.run (as.take (n + 1))).host.files.content? m)
  logFile : ∀ l old, file = some l →
    (s.run (as.take (n + 1))).host.files.content? l = some old →
    (∀ o ∈ s.behind as n, ¬o.2.ExportsTo o.1 l) →
      (s.run as).host.files.content? l = some (kept s.host.files.largestFile old
        ((s.behind as n).logged (.installed threshold file) s.host.stamp))
  logFile_of_room : ∀ l old, file = some l →
    (s.run (as.take (n + 1))).host.files.content? l = some old →
    (∀ o ∈ s.behind as n, ¬o.2.ExportsTo o.1 l) →
    Room s.host.files.largestFile (old.length +
        ((s.behind as n).logged (.installed threshold file) s.host.stamp).length) →
      (s.run as).host.files.content? l =
        some (old ++ (s.behind as n).logged (.installed threshold file) s.host.stamp)

/-- **Before** the first call whose log file can be opened. -/
theorem precedes (hlogger : s.host.logger = .absent) (has : ∀ a ∈ as, a.LeavesFiles)
    (hquiet : s.QuietBefore as n) : s.Precedes as n := by
  have hno : ∀ records, s.host.logger ≠ .collecting records := by
    rw [hlogger]
    exact nofun
  refine ⟨absent_of_quietBefore hlogger has hquiet,
    received_run (fun a ha => has a (List.mem_of_mem_take ha)) (fun _ => hquiet.take) hno,
    fun o ho r hr => ?_⟩
  rw [hr]
  exact Host.log_absent ((Host.logger_of_mem_trace hno ho).trans hlogger) r

/-- The **call** that installs a logger leaves its host as it is but for the logger and its file. -/
theorem run_of_opensAt (hlogger : s.host.logger = .absent) (has : ∀ a ∈ as, a.LeavesFiles)
    (hopens : s.OpensAt as n threshold file) (hquiet : s.QuietBefore as n) :
    (s.run (as.take (n + 1))).host.stamp = s.host.stamp ∧
      (s.run (as.take (n + 1))).host.files.largestFile = s.host.files.largestFile ∧
      (s.run (as.take (n + 1))).host.console = (s.run (as.take n)).host.console := by
  have hbefore := (precedes hlogger has hquiet).received
  obtain ⟨a, ha, path, rfl, hopen⟩ := hopens
  obtain ⟨h, hopened, hcall⟩ :=
    (callEnds hlogger has n threshold path).installed file hopen (not_not_intro hquiet)
  rw [run_take_succ ha, hcall]
  exact ⟨hopened.stamp.trans hbefore.stamp, hopened.largestFile.trans hbefore.largestFile,
    hopened.console⟩

/-- **Behind** the first call whose log file can be opened. -/
theorem follows (hlogger : s.host.logger = .absent) (has : ∀ a ∈ as, a.LeavesFiles)
    (hopens : s.OpensAt as n threshold file) (hquiet : s.QuietBefore as n) :
    s.Follows as n threshold file := by
  obtain ⟨hcall, hend⟩ := installed_of_opensAt hlogger has hopens hquiet
  obtain ⟨hstamp, hlargest, hconsole⟩ := run_of_opensAt hlogger has hopens hquiet
  have hno : ∀ records, (s.run (as.take (n + 1))).host.logger ≠ .collecting records := by
    rw [hcall]
    exact nofun
  have hreceived := received_behind has hcall
  have hshown := hreceived.console
  have hcontent := hreceived.content?
  rw [hcall, hstamp, hconsole] at hshown
  rw [hcall, hstamp, hlargest] at hcontent
  have hlogFile (l : Location) (old : Bytes) (hfile : file = some l)
      (hold : (s.run (as.take (n + 1))).host.files.content? l = some old)
      (hnone : ∀ o ∈ s.behind as n, ¬o.2.ExportsTo o.1 l) :
      (s.run as).host.files.content? l = some (kept s.host.files.largestFile old
        ((s.behind as n).logged (.installed threshold file) s.host.stamp)) := by
    have hlogger : (Logger.installed threshold file).file? = some l := hfile
    rw [hcontent l (holdsFile_of_content? hold), hold]
    exact Deliveries.contentAfter_some hlogger hnone old
  exact {
    logger := hend
    host := host_behind has hcall
    silent := fun o ho r hr hlevel => by
      have hinstalled := (Host.logger_of_mem_trace hno ho).trans hcall
      rw [hr]
      exact Host.log_of_not_passes (by rw [hinstalled]; exact nofun)
        (by rw [hinstalled]; exact hlevel)
    console := hshown
    console_of_fits := fun hchunk hfits => by
      rw [hshown hchunk]
      exact Sink.written_after_of_fits hfits
    content? := hcontent
    logFile := hlogFile
    logFile_of_room := fun l old hfile hold hnone hroom => by
      rw [hlogFile l old hfile hold hnone, Sink.kept_of_room hroom] }

/-- **Installing a logger**, on a host that has none, by any number of calls between any operations
on collectors, records of the program around them, and whatever else leaves files alone.

* Exactly the first call whose log file can be opened succeeds.
* A call whose log file cannot be opened says why, and changes nothing. Any other call behind the
  first one says that there is a logger already, and leaves it.
* Before the call that succeeds records are told nowhere.
* Behind it the records that pass its threshold are told on the console and in its log file, each of
  them once and in order, and the others nowhere. The console shows all that it is to show if it has
  room for that, and the log file, if it is a regular file, holds all that it is told if it has room
  for that. An export to the log file replaces what it held, so the records of which it tells are
  those behind the last export. -/
theorem logger_run (hlogger : s.host.logger = .absent) (has : ∀ a ∈ as, a.LeavesFiles) :
    (∀ n, s.SucceedsAt as n ↔ (∃ threshold file, s.OpensAt as n threshold file) ∧
        s.QuietBefore as n) ∧
      (∀ n m, s.SucceedsAt as n → s.SucceedsAt as m → n = m) ∧
      (∀ n threshold path, as[n]? = some (.host (.setupLogger threshold path)) →
        (s.run (as.take n)).CallEnds threshold path (¬s.QuietBefore as n)) ∧
      (∀ n, s.QuietBefore as n → s.Precedes as n) ∧
      ∀ n threshold file, s.OpensAt as n threshold file → s.QuietBefore as n →
        s.Follows as n threshold file := by
  have hsucceeds (n : ℕ) := succeedsAt_iff hlogger has n
  refine ⟨hsucceeds, fun n m hn hm => ?_,
    fun n threshold path _ => callEnds hlogger has n threshold path,
    fun n => precedes hlogger has, fun n threshold file => follows hlogger has⟩
  obtain ⟨⟨threshold, file, hopens⟩, hquiet⟩ := (hsucceeds n).mp hn
  obtain ⟨⟨threshold', file', hopens'⟩, hquiet'⟩ := (hsucceeds m).mp hm
  rcases Nat.lt_trichotomy n m with hlt | heq | hgt
  · exact absurd hopens (hquiet' n hlt threshold file)
  · exact heq
  · exact absurd hopens' (hquiet m hgt threshold' file')

/-- A session on a host without a logger. -/
def bare (console : Sink) (largestFile : Option ℕ) : Session where
  host := {
    files := { FileSystem.initial (.ofString "/work") with largestFile }
    console
    logger := .absent
    stamp := ⟨"DATE", "TIME", "LINE"⟩ }

/-- The path of a log file. -/
def logPath : Path := .ofString "log"

/-- Where that path leads. -/
def logLocation : Location := [Utf8.ofString "work", Utf8.ofString "log"]

/-- An error of the program around the collectors. -/
def failure : Record := ⟨.error, "host", "failure"⟩

/-- The line of that error. -/
def failureLine : Bytes := Utf8.ofString "[DATE][TIME][ERROR][host:LINE] failure\n"

/-- A session where the console and every file have room for that line and no more. -/
def narrow : Session := bare { limit := some 39, chunk := some 4 } (some 39)

/-- The error is logged before and after three calls, of which the first one has its log file in a
directory that is not there. A collector is started between the others. -/
def threeCalls : List Action :=
  [.host (.log failure), .host (.setupLogger (.upTo .trace) (some (.ofString "missing/log"))),
    .host (.setupLogger (.upTo .warn) (some logPath)), .on 0 (.init ⟨true, none⟩),
    .host (.setupLogger (.upTo .trace) none), .host (.log failure)]

/-- The second call succeeds and the others do not. The error is told once, and the start, which is
less severe, is not. -/
theorem logger_run_threeCalls :
    narrow.host.logger = .absent ∧ (∀ a ∈ threeCalls, a.LeavesFiles) ∧
      (∀ n, narrow.SucceedsAt threeCalls n ↔ n = 2) ∧
      (narrow.run threeCalls).host.logger = .installed (.upTo .warn) (some logLocation) ∧
      (narrow.run threeCalls).host.console.written = failureLine ∧
      (narrow.run threeCalls).host.files.content? logLocation = some failureLine := by
  have has : ∀ a ∈ threeCalls, a.LeavesFiles := by simp [threeCalls, Action.LeavesFiles]
  obtain ⟨hsucceeds, hunique, -, -, hfollows⟩ := logger_run (s := narrow) rfl has
  have hopens : narrow.OpensAt threeCalls 2 (.upTo .warn) (some logLocation) :=
    ⟨_, rfl, _, rfl, rfl⟩
  have hquiet : narrow.QuietBefore threeCalls 2 := by
    rintro m hm threshold file ⟨a, ha, path, rfl, hopen⟩
    match m with
    | 0 => cases ha
    | 1 =>
      cases ha
      cases hopen
  have hcall := (hsucceeds 2).mpr ⟨⟨_, _, hopens⟩, hquiet⟩
  have hfollow := hfollows 2 _ _ hopens hquiet
  have hconsole : (narrow.run (threeCalls.take 2)).host.console = narrow.host.console := rfl
  have hshown : (narrow.behind threeCalls 2).shown (.installed (.upTo .warn) (some logLocation))
      narrow.host.stamp = failureLine := by decide +kernel
  have hlogged : (narrow.behind threeCalls 2).logged (.installed (.upTo .warn) (some logLocation))
      narrow.host.stamp = failureLine := by decide +kernel
  refine ⟨rfl, has, fun n => ⟨fun hn => hunique n 2 hn hcall, fun hn => hn ▸ hcall⟩, hfollow.logger,
    ?_, ?_⟩
  · have hwritten := hfollow.console_of_fits
    rw [hshown, hconsole] at hwritten
    exact hwritten nofun fun k hk => by cases hk; decide
  · have hempty : (narrow.run (threeCalls.take 3)).host.files.content? logLocation = some [] := by
      decide +kernel
    have houtputs : (narrow.behind threeCalls 2).map Prod.snd =
        [.record (Collector.new.initRecord ⟨true, none⟩), .opened none, .record failure] := rfl
    have hno : ∀ o ∈ narrow.behind threeCalls 2, ¬o.2.ExportsTo o.1 logLocation := by
      intro o ho
      have hmem := List.mem_map_of_mem (f := Prod.snd) ho
      rw [houtputs] at hmem
      simp only [List.mem_cons, List.not_mem_nil, or_false] at hmem
      rcases hmem with hrecord | hopened | hrecord
      · rw [hrecord]
        exact id
      · rw [hopened]
        exact id
      · rw [hrecord]
        exact id
    have hwritten := hfollow.logFile_of_room logLocation [] rfl hempty hno
    rw [hlogged] at hwritten
    exact hwritten fun k hk => by cases hk; decide

/-- A logger for what is not less severe than information is installed, and then the error is
logged. -/
def oneCall (path : Option Path) : List Action :=
  [.host (.setupLogger (.upTo .info) path), .host (.log failure)]

/-- **Records that pass are not always told.** In each of these sessions the call succeeds, and the
error is not told as it should be: an export to the log file replaces it there, a console without
space does not show it, and a log file that keeps nothing, or has no space, does not hold it. -/
theorem logger_run_untold :
    ((bare {} none).SucceedsAt (oneCall (some logPath) ++ [.on 0 (.save logPath)]) 0 ∧
      ∃ content, ((bare {} none).run
          (oneCall (some logPath) ++ [.on 0 (.save logPath)])).host.files.content? logLocation =
        some content ∧ ¬failureLine <:+: content) ∧
    ((bare { limit := some 0, whenFull := .fail (.system .noSpace) } none).SucceedsAt
        (oneCall none) 0 ∧
      ((bare { limit := some 0, whenFull := .fail (.system .noSpace) } none).run
        (oneCall none)).host.console.written = []) ∧
    ((bare {} none).SucceedsAt (oneCall (some (.ofString "/dev/null"))) 0 ∧
      ((bare {} none).run (oneCall (some (.ofString "/dev/null")))).host.files.readFile
        (.ofString "/dev/null") = .ok []) ∧
    ((bare {} (some 0)).SucceedsAt (oneCall (some logPath)) 0 ∧
      ((bare {} (some 0)).run (oneCall (some logPath))).host.files.content? logLocation =
        some []) := by
  refine ⟨⟨⟨_, _, rfl, rfl⟩, Export.bytes .zero ++ Utf8.ofString (Record.text
      (.ofLibrary .info "Statistics saved to log") ⟨"DATE", "TIME", "LINE"⟩), ?_, ?_⟩,
    ⟨⟨_, _, rfl, rfl⟩, ?_⟩, ⟨⟨_, _, rfl, rfl⟩, rfl⟩, ⟨_, _, rfl, rfl⟩, ?_⟩
  all_goals decide +kernel

end Session

end RayTally
