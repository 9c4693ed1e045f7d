import Mathlib.Algebra.Group.Action.Defs
import Mathlib.Algebra.Order.BigOperators.Group.List
import Mathlib.Algebra.Order.Ring.Nat
import RayTally.Proofs.Cleanup
import RayTally.Proofs.Files.Growth
import RayTally.Proofs.Report.Limits
import RayTally.Proofs.Report.RoundTrip

/-!
# Saved exports are loaded again

An export is short, so a buffer keeps all of it until it is flushed, and whatever can go wrong goes
wrong at the flush. Even so no failure is lost: saving succeeds only if the file takes every byte,
and then the file is loaded as the tally that was saved, whatever it held before.

## Main results

* `Export.length_bytes_lt`: every export is shorter than the buffer.
* `Export.wrote_writeThrough`: what comes of an export behind a buffer, on every sink.
* `Export.load_save`: what was saved into a file is loaded from it.
* `Export.save_reloads`: saving, loading and logging, for every file system.
-/

namespace RayTally

open FileSystem
open LineReader (lineFeed)

/-- A file that the logger does not write to is **left alone** by logging. -/
theorem Host.node?_log {h : Host} {m : Location} (hm : ¬h.WritesTo m) (r : Record) :
    (h.log r).files.node? m = h.files.node? m := by
  rcases h.log_cases r with hr | ⟨records, -, hr⟩ | ⟨threshold, line, -, hr⟩ |
    ⟨threshold, l, line, hlogger, hr⟩
  · rw [hr]
  · rw [hr]
  · rw [hr]
    rfl
  · rw [hr]
    refine (agreesOff_append h.files l line).node? m ?_
    rintro rfl
    exact hm ⟨threshold, hlogger⟩

namespace Export

variable {t : Tally} {p : Path} {fs : FileSystem} {l : Location} {s : Sink}

/-! ### The length of an export -/

/-- No line that is written is long. -/
theorem length_line_le {cs : List Char} (h : cs ∈ lines t) : (Utf8.encode cs).length ≤ 100 := by
  rcases List.mem_cons.mp h with rfl | h
  · decide +kernel
  · obtain ⟨⟨c, n⟩, -, rfl⟩ := List.mem_map.mp h
    have hname : (Utf8.encode c.name.toList).length ≤ 79 := by
      cases c <;> decide +kernel
    have hdigits : (Utf8.encode (Decimal.digits n.toNat)).length ≤ 20 := by
      rw [Utf8.length_encode_of_ascii fun _ => Decimal.toNat_lt_of_mem_digits]
      exact Decimal.length_digits_le (by decide) (Nat.lt_trans n.toNat_lt (by decide))
    have hcomma : (Utf8.encodeChar ',').length = 1 := rfl
    rw [line, Utf8.encode_append, Utf8.encode_cons, List.length_append, List.length_append, hcomma]
    dsimp only
    omega

/-- Lines of a bounded length make a text of a bounded length. -/
theorem length_flatMap_le {ls : List Bytes} {k : Nat} (h : ∀ l ∈ ls, l.length ≤ k) :
    (ls.flatMap (· ++ [lineFeed])).length ≤ ls.length * (k + 1) := by
  have hlines : ∀ n ∈ ls.map fun l => (l ++ [lineFeed]).length, n ≤ k + 1 := by
    intro n hn
    obtain ⟨l, hl, rfl⟩ := List.mem_map.mp hn
    rw [List.length_append]
    exact Nat.succ_le_succ (h l hl)
  have hsum := List.sum_le_card_nsmul _ _ hlines
  rw [List.length_map, smul_eq_mul] at hsum
  rw [List.length_flatMap]
  exact hsum

/-- **Every export is shorter** than the buffer before a file. -/
theorem length_bytes_lt (t : Tally) : (bytes t).length < 8192 := by
  have hlong : ∀ l ∈ (lines t).map Utf8.encode, l.length ≤ 100 :=
    List.forall_mem_map.mpr fun _ => length_line_le
  have hlength := length_flatMap_le hlong
  have hlines : ((lines t).map Utf8.encode).length = 13 := rfl
  rw [← bytes_eq_flatMap, hlines] at hlength
  omega

/-! ### Behind a buffer -/

/-- **Until it is flushed** an export is in the buffer only. -/
theorem writePieces_pieces (t : Tally) (s : Sink) :
    BufferedSink.writePieces { sink := s } ((pieces t).map Utf8.encode) =
      (.ok (), { sink := s, pending := bytes t }) := by
  have hfits : ([] : Bytes).length + ((pieces t).map Utf8.encode).flatten.length ≤ 8192 := by
    rw [bytes_eq, List.length_nil, Nat.zero_add]
    exact Nat.le_of_lt (length_bytes_lt t)
  rw [BufferedSink.writePieces_of_fits hfits, bytes_eq]
  rfl

/-- **An export behind a buffer** comes to what it comes to without one, at whatever byte the sink
fails. -/
theorem wrote_writeThrough (t : Tally) (hs : s.written = []) (hk : s.chunk ≠ some 0) :
    Wrote (bytes t) s
      ((BufferedSink.writeThrough { sink := s } ((pieces t).map Utf8.encode)).1,
        (BufferedSink.writeThrough { sink := s } ((pieces t).map Utf8.encode)).2.sink) := by
  rw [BufferedSink.writeThrough_eq hk, BufferedSink.unbuffered, List.nil_append,
    ← Sink.writePieces_eq hk, ← bytes_eq]
  exact wrote_writePieces hs hk _

/-- A file that was opened to be written from the start is empty. -/
theorem written_sinkAt_truncate (fs : FileSystem) (l : Location) :
    ((fs.truncate l).sinkAt l).written = [] := by
  rw [truncate]
  split
  · rename_i d hd
    rw [sinkAt, hd]
    cases d <;> rfl
  · rw [sinkAt, node?_put]
    by_cases hl : l = []
    · subst hl
      rfl
    · rw [if_pos ⟨rfl, hl⟩]

/-- **What comes of saving** is what comes of the export on the file that was opened. -/
theorem wrote_save (t : Tally) (hl : fs.resolve .create p = .ok l) :
    ∃ s, Wrote (bytes t) ((fs.truncate l).sinkAt l) ((save t p fs).1, s) ∧
      (save t p fs).2 = (fs.truncate l).store l s := by
  have hsave : save t p fs =
      ((BufferedSink.writeThrough { sink := (fs.truncate l).sinkAt l }
          ((pieces t).map Utf8.encode)).1,
        (fs.truncate l).store l (BufferedSink.writeThrough { sink := (fs.truncate l).sinkAt l }
          ((pieces t).map Utf8.encode)).2.sink) := by
    rw [save, create, hl]
  rw [hsave]
  exact ⟨_, wrote_writeThrough t (written_sinkAt_truncate fs l) (chunk_sinkAt _ l), rfl⟩

/-! ### Loading -/

/-- **What was saved into a file** is loaded from it, and nothing else has changed. -/
theorem load_save (hl : fs.resolve .create p = .ok l) (hfile : fs.HoldsFile l)
    (hok : (save t p fs).1 = .ok ()) :
    Import.load (save t p fs).2 p = .ok t ∧ AgreesOff l fs (save t p fs).2 := by
  have hdiscards : ¬fs.Discards p := by
    rintro ⟨m, hm, hnull⟩
    obtain rfl := Except.ok.inj (hl.symm.trans hm)
    exact hfile.ne_device .null hnull
  have hsaved := saved_save t hdiscards
  rw [hok] at hsaved
  cases hsaved with
  | saved hm hfound hnode hoff =>
    obtain rfl := Except.ok.inj (hl.symm.trans hm)
    refine ⟨?_, hoff⟩
    have hread : Import.readSource { rest := bytes t } = .ok t :=
      (Import.readSource_iff_isExport (Nat.succ_pos _) rfl).mpr (isExport_bytes t)
    rw [Import.load, load, openToRead, hfound, Except.map, sourceAt, hnode]
    dsimp only
    rw [hread]
    rfl

/-! ### Logging -/

/-- The level of the record tells whether saving succeeded. -/
theorem level_record (p : Path) (r : Except Failure Unit) :
    ((record p r).level = .info ↔ r = .ok ()) ∧
      ((record p r).level = .error ↔ ∃ why, r = .error why) := by
  cases r with
  | ok =>
    refine ⟨iff_of_true rfl rfl, iff_of_false ?_ ?_⟩
    · rintro ⟨⟩
    · rintro ⟨_, ⟨⟩⟩
  | error why =>
    refine ⟨iff_of_false ?_ ?_, iff_of_true rfl ⟨why, rfl⟩⟩
    · rintro ⟨⟩
    · rintro ⟨⟩

/-! ### Saving -/

/-- **What saving an export comes to.**

* The export is shorter than the buffer, so nothing of it reaches a sink before the flush. Still no
  failure is lost, at whatever byte it comes: writing succeeds only if the sink has taken the whole
  text, and fails with the failure of the sink otherwise.
* If the path leads nowhere where a file can be, nothing changes.
* Else the outcome of saving is that of writing to the file that was opened. If it is a regular file
  or was created, and saving succeeded, then the tally is loaded again, and all other files are as
  they were.
* Who logs the outcome logs one record, whose level tells whether saving succeeded, and the files
  come to the same, up to what the logger itself writes. -/
structure Reloads (t : Tally) (p : Path) (fs : FileSystem) : Prop where
  short : (bytes t).length < 8192
  delayed : ∀ s : Sink, BufferedSink.writePieces { sink := s } ((pieces t).map Utf8.encode) =
    (.ok (), { sink := s, pending := bytes t })
  flushed : ∀ s : Sink, s.written = [] → s.chunk ≠ some 0 → Wrote (bytes t) s
    ((BufferedSink.writeThrough { sink := s } ((pieces t).map Utf8.encode)).1,
      (BufferedSink.writeThrough { sink := s } ((pieces t).map Utf8.encode)).2.sink)
  notOpened : ∀ why, fs.resolve .create p = .error why → save t p fs = (.error why, fs)
  opened : ∀ l, fs.resolve .create p = .ok l →
    ∃ s, Wrote (bytes t) ((fs.truncate l).sinkAt l) ((save t p fs).1, s) ∧
      (save t p fs).2 = (fs.truncate l).store l s
  loaded : ∀ l, fs.resolve .create p = .ok l → fs.HoldsFile l → (save t p fs).1 = .ok () →
    Import.load (save t p fs).2 p = .ok t ∧ AgreesOff l fs (save t p fs).2
  logged : ∀ h : Host, h.files = fs → saveLogged t p h =
    (h.withOutput h.console (save t p fs).2).log (record p (save t p fs).1)
  info_iff : (record p (save t p fs).1).level = .info ↔ (save t p fs).1 = .ok ()
  error_iff : (record p (save t p fs).1).level = .error ↔ ∃ why, (save t p fs).1 = .error why
  node? : ∀ h : Host, h.files = fs → ∀ m, ¬h.WritesTo m →
    (saveLogged t p h).files.node? m = (save t p fs).2.node? m

/-- **Saving an export**, for every tally, path and tree. -/
theorem save_reloads (t : Tally) (p : Path) (fs : FileSystem) : Reloads t p fs where
  short := length_bytes_lt t
  delayed := writePieces_pieces t
  flushed _ := wrote_writeThrough t
  notOpened _ := save_of_error
  opened _ := wrote_save t
  loaded _ := load_save
  logged h hfs := by rw [saveLogged_eq, hfs]
  info_iff := (level_record p (save t p fs).1).1
  error_iff := (level_record p (save t p fs).1).2
  node? h hfs m hm := by
    rw [saveLogged_eq, hfs]
    exact Host.node?_log (h := h.withOutput h.console (save t p fs).2) hm _

/-- A host where a link leads to a file that is longer than an export. -/
def occupied : Host where
  files := ((FileSystem.initial (.ofString "/work")).plant (.ofString "stats.csv")
    (.file (List.replicate 400 120))).plant (.ofString "latest") (.link (.ofString "stats.csv"))
  console := {}
  logger := .collecting []
  stamp := ⟨"", "", ""⟩

/-- Through the link the tally is saved and loaded. The device without space makes saving fail, and
where a directory is nothing is opened. -/
theorem save_reloads_occupied :
    ((save .zero (.ofString "latest") occupied.files).1 = .ok () ∧
      Import.load (save .zero (.ofString "latest") occupied.files).2 (.ofString "latest") =
        .ok .zero ∧
      ∃ r, (saveLogged .zero (.ofString "latest") occupied).logger = .collecting [r] ∧
        r.level = .info) ∧
    (save .zero (.ofString "/dev/full") occupied.files).1 = .error (.system .noSpace) ∧
    save .zero (.ofString "/work") occupied.files =
      (.error (.system .isDirectory), occupied.files) := by
  have hlatest := save_reloads .zero (.ofString "latest") occupied.files
  have hfull := save_reloads .zero (.ofString "/dev/full") occupied.files
  have hdirectory := save_reloads .zero (.ofString "/work") occupied.files
  refine ⟨?_, ?_, hdirectory.notOpened _ rfl⟩
  · obtain ⟨s, hwrote, -⟩ :=
      hlatest.opened [Utf8.ofString "work", Utf8.ofString "stats.csv"] rfl
    have hok : (save .zero (.ofString "latest") occupied.files).1 = .ok () := by
      refine hwrote.ok_iff.mpr ?_
      rintro k ⟨⟩
    rw [hlatest.logged occupied rfl]
    exact ⟨hok, (hlatest.loaded _ rfl (.inr ⟨_, rfl⟩) hok).1, _, rfl, hlatest.info_iff.mpr hok⟩
  · obtain ⟨s, hwrote, -⟩ := hfull.opened [Utf8.ofString "dev", Utf8.ofString "full"] rfl
    exact (hwrote.cut 0 rfl (length_bytes_pos _)).1

end Export

end RayTally
