import RayTally.Host
import RayTally.Proofs.Files.Resolution
import RayTally.Proofs.Stream.Writing

/-!
# Logging

A logger may print to the console and write to a file, so whoever logs changes the host. This module
says how little: a console that takes everything goes on doing so, paths lead where they led, and a
file that the logger does not write to reads as before.

## Main results

* `Host.log_cases`: what logging can do.
* `Host.sameTree_log` / `Host.takesAll_log`: logging changes only what files hold, and leaves a
  console that takes everything so.
* `Host.readFile_log`: a file that the logger does not write to reads as before.
* `Host.logAll_of_collecting`: the host's own logger keeps all records, in order.
-/

namespace RayTally

open FileSystem

/-! ### Consoles -/

/-- A sink that **takes everything**, maybe bit by bit. -/
def Sink.TakesAll (s : Sink) : Prop := s.limit = none ∧ s.chunk ≠ some 0

/-- A sink that takes everything has taken what was written, and goes on doing so. -/
theorem Sink.TakesAll.writeAll {s : Sink} (h : s.TakesAll) (bs : Bytes) :
    ∃ s', s.writeAll bs = (.ok (), s') ∧ s'.written = s.written ++ bs ∧ s'.TakesAll := by
  obtain ⟨s', hs', hwritten, hlimit, hchunk⟩ :=
    writeAll_of_fits h.2 (fits_of_unlimited h.1 bs.length)
  exact ⟨s', hs', hwritten, hlimit.trans h.1, hchunk ▸ h.2⟩

/-- The same of what is written piece by piece. -/
theorem Sink.TakesAll.writePieces {s : Sink} (h : s.TakesAll) (ps : List Bytes) :
    ∃ s', s.writePieces ps = (.ok (), s') ∧ s'.written = s.written ++ ps.flatten ∧ s'.TakesAll := by
  rw [writePieces_eq h.2]
  exact h.writeAll ps.flatten

/-! ### Logging -/

namespace Host

variable {h : Host} {r : Record} {rs records : List Record} {p : Path}

/-- Logs records one after the other. -/
def logAll (h : Host) (rs : List Record) : Host := rs.foldl log h

/-- The logger writes to the file at a location. -/
def WritesTo (h : Host) (l : Location) : Prop :=
  ∃ threshold, h.logger = .installed threshold (some l)

/-- **What logging can do**: nothing, or keep the record, or print its line, and append it to a file
if the logger has one. -/
theorem log_cases (h : Host) (r : Record) :
    h.log r = h ∨
      (∃ records, h.logger = .collecting records ∧
        h.log r = { h with logger := .collecting (records ++ [r]) }) ∨
      (∃ threshold line, h.logger = .installed threshold none ∧ h.log r = h.print line) ∨
      ∃ threshold l line, h.logger = .installed threshold (some l) ∧
        h.log r = { h.print line with files := (h.files.append l line).2 } := by
  rw [log]
  cases hlogger : h.logger with
  | absent => exact .inl rfl
  | collecting records => exact .inr (.inl ⟨records, rfl, rfl⟩)
  | installed threshold file =>
    dsimp only
    split
    · right; right
      cases file with
      | none => exact .inl ⟨threshold, _, rfl, rfl⟩
      | some l => exact .inr ⟨threshold, l, _, rfl, rfl⟩
    · exact .inl rfl

/-- **Logging changes only what files hold.** -/
theorem sameTree_log (h : Host) (r : Record) : SameTree h.files (h.log r).files := by
  rcases h.log_cases r with hr | ⟨records, -, hr⟩ | ⟨threshold, line, -, hr⟩ |
    ⟨threshold, l, line, -, hr⟩
  · rw [hr]
    exact .refl h.files
  · rw [hr]
    exact .refl h.files
  · rw [hr]
    exact .refl h.files
  · rw [hr]
    exact sameTree_append h.files l line

/-- **Logging leaves a console** that takes everything so. -/
theorem takesAll_log (hc : h.console.TakesAll) (r : Record) : (h.log r).console.TakesAll := by
  have hprint (line : Bytes) : (h.print line).console.TakesAll := by
    obtain ⟨s', hs', -, htakes⟩ := hc.writeAll line
    rw [print, hs']
    exact htakes
  rcases h.log_cases r with hr | ⟨records, -, hr⟩ | ⟨threshold, line, -, hr⟩ |
    ⟨threshold, l, line, -, hr⟩
  · rw [hr]
    exact hc
  · rw [hr]
    exact hc
  · rw [hr]
    exact hprint line
  · rw [hr]
    exact hprint line

/-- Logging does not make a logger write elsewhere. -/
theorem writesTo_log {l : Location} : (h.log r).WritesTo l ↔ h.WritesTo l := by
  rcases h.log_cases r with hr | ⟨records, hlogger, hr⟩ | ⟨threshold, line, -, hr⟩ |
    ⟨threshold, l, line, -, hr⟩
  · rw [hr]
  · simp [hr, WritesTo, hlogger]
  · rw [hr]
    rfl
  · rw [hr]
    rfl

/-- A file that the logger does not write to **reads as before**. -/
theorem readFile_log (hp : ∀ l, h.WritesTo l → h.files.resolve .read p ≠ .ok l) :
    (h.log r).files.readFile p = h.files.readFile p := by
  rcases h.log_cases r with hr | ⟨records, -, hr⟩ | ⟨threshold, line, -, hr⟩ |
    ⟨threshold, l, line, hlogger, hr⟩
  · rw [hr]
  · rw [hr]
  · rw [hr]
    rfl
  · rw [hr]
    exact readFile_append_of_ne (hp l ⟨threshold, hlogger⟩) line

/-- What one record leaves as it is, any number of them leaves so. -/
theorem logAll_induction {motive : Host → Prop} (hlog : ∀ h r, motive h → motive (h.log r))
    (hstart : motive h) (rs : List Record) : motive (h.logAll rs) := by
  induction rs generalizing h with
  | nil => exact hstart
  | cons r rs ih => exact ih (hlog h r hstart)

theorem sameTree_logAll (h : Host) (rs : List Record) : SameTree h.files (h.logAll rs).files :=
  logAll_induction (motive := fun h' => SameTree h.files h'.files)
    (fun h' r hsame => hsame.trans (sameTree_log h' r)) (.refl h.files) rs

theorem takesAll_logAll (hc : h.console.TakesAll) (rs : List Record) :
    (h.logAll rs).console.TakesAll :=
  logAll_induction (motive := fun h' => h'.console.TakesAll)
    (fun _ r hc' => takesAll_log hc' r) hc rs

theorem writesTo_logAll (rs : List Record) {l : Location} :
    (h.logAll rs).WritesTo l ↔ h.WritesTo l :=
  logAll_induction (motive := fun h' => h'.WritesTo l ↔ h.WritesTo l)
    (fun _ _ hiff => writesTo_log.trans hiff) .rfl rs

/-- The host's own logger **keeps a record**, and nothing else changes. -/
theorem log_of_collecting (hl : h.logger = .collecting records) (r : Record) :
    h.log r = { h with logger := .collecting (records ++ [r]) } := by
  rw [log, hl]

/-- The host's own logger keeps **all records, in order**. -/
theorem logAll_of_collecting (hl : h.logger = .collecting records) (rs : List Record) :
    h.logAll rs = { h with logger := .collecting (records ++ rs) } := by
  induction rs generalizing h records with
  | nil => rw [List.append_nil, ← hl]; rfl
  | cons r rs ih =>
    have hlog := log_of_collecting hl r
    have hlogger : (h.log r).logger = .collecting (records ++ [r]) := by rw [hlog]
    have hrest := ih hlogger
    rw [hlog, ← List.append_cons] at hrest
    rw [logAll, List.foldl_cons, hlog]
    exact hrest

end Host

end RayTally
