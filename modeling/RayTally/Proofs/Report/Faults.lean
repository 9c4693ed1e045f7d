import RayTally.Proofs.Report.Rejection
import RayTally.Report.Storage

/-!
# Sources that interrupt or fail

An export can come from any source: one that gives its bytes in chunks of any size, one that is
interrupted, one that breaks down for good. The first two make no difference to what is read. A
source that breaks down is never read as a tally. The lines that were complete by then are read as
ever, and if one of them is bad the failure goes unnoticed; else the failure is reported, for the
line that it struck. What that line had so far is never taken for data.

## Main results

* `Import.splitOn_append`: more bytes leave the lines alone that are complete.
* `Import.readSource_eq_read_of_fault`: a source that fails is read as its complete lines, and then
  the failure.
* `Import.read_complete_of_isLeast_badAt`: a bad line among them is reported, and as it would be
  without the failure.
* `Import.read_complete_of_not_badAt`: else the failure is reported.
* `Import.readSource_of_any`: all of it, for every text.
-/

namespace RayTally.Import

open LineReader (lineFeed textOf)

/-! ### Complete lines -/

/-- The lines that bytes have **complete**: what stands before a line feed. -/
def completeLines (bs : Bytes) : List Bytes := (bs.splitOn lineFeed).dropLast

/-- The complete lines, and behind them what was read of the next one. -/
theorem splitOn_eq_concat (bs : Bytes) :
    ∃ last, bs.splitOn lineFeed = completeLines bs ++ [last] := by
  have hne : bs.splitOn lineFeed ≠ [] := List.splitOn_ne_nil _ _
  exact ⟨_, (List.dropLast_concat_getLast hne).symm⟩

/-- **More bytes** leave the lines alone that are complete. -/
theorem splitOn_append (bs cs : Bytes) :
    ∃ rest, (bs ++ cs).splitOn lineFeed = completeLines bs ++ rest := by
  induction bs with
  | nil => exact ⟨cs.splitOn lineFeed, rfl⟩
  | cons b bs ih =>
    obtain ⟨rest, hrest⟩ := ih
    obtain ⟨last, hlast⟩ := splitOn_eq_concat bs
    have hdrop (l : Bytes) (ls : List Bytes) : (l :: (ls ++ [last])).dropLast = l :: ls := by
      rw [← List.cons_append, List.dropLast_concat]
    rw [completeLines, List.cons_append, List.splitOn_cons_eq_if_modifyHead,
      List.splitOn_cons_eq_if_modifyHead, hrest, hlast]
    split
    · refine ⟨rest, ?_⟩
      rw [hdrop, List.cons_append]
    · cases completeLines bs with
      | nil => exact ⟨rest.modifyHead (b :: ·), rfl⟩
      | cons l ls =>
        refine ⟨rest, ?_⟩
        rw [List.cons_append, List.cons_append, List.modifyHead_cons, List.modifyHead_cons, hdrop,
          List.cons_append]

/-- There is a complete line for each line feed. -/
theorem length_completeLines (bs : Bytes) : (completeLines bs).length = bs.count lineFeed := by
  induction bs with
  | nil => rfl
  | cons b bs ih =>
    obtain ⟨last, hlast⟩ := splitOn_eq_concat bs
    rw [completeLines, List.splitOn_cons_eq_if_modifyHead, hlast, List.count_cons, ← ih]
    split
    · rw [List.length_dropLast, List.length_cons, List.length_append]
      rfl
    · rw [List.length_dropLast, List.length_modifyHead, List.length_append]
      rfl

/-! ### Reading up to a failure -/

variable {xs ys : List (Except Failure (List Char))}

/-- What is read depends on lines only through what they say. -/
theorem read_congr (h : xs.map entryOf = ys.map entryOf) : read xs = read ys := by
  rw [read, read, readLines_congr h]

/-- **A bad line is reported whatever follows it**, be it lines or a failure. -/
theorem read_append_of_badLine {n : Nat} {why : LineError} (h : read xs = .error (.badLine n why)) :
    read (xs ++ ys) = .error (.badLine n why) := by
  have hlines : readLines 1 [] xs = .error (.badLine n why) := by
    rw [read] at h
    cases hread : readLines 1 [] xs with
    | error e =>
      simp only [hread] at h
      cases h
      rfl
    | ok found =>
      simp only [hread] at h
      split at h <;> cases h
  rw [read, readLines_append, hlines]

/-- **A source that fails** is read as its complete lines, and then the failure. -/
theorem readSource_eq_read_of_fault {s : Source} {e : Failure} (hc : 0 < s.chunk)
    (he : s.ending = some e) :
    readSource s = read ((completeLines s.available).map textOf ++ [.error e]) := by
  obtain ⟨last, hlast⟩ := splitOn_eq_concat s.available
  have htexts := Source.texts_eq hc hlast
  rw [he, LineReader.lastLine] at htexts
  rw [readSource, htexts]
  refine read_congr ?_
  have hlines : (completeLines s.available).map
      (entryOf ∘ fun l => LineReader.textOfLine (l ++ [lineFeed])) =
        (completeLines s.available).map (entryOf ∘ textOf) :=
    List.map_congr_left fun l _ => entryOf_textOfLine l
  rw [List.map_append, List.map_append, List.map_map, List.map_map, List.map_map, hlines]
  rfl

variable {bs : Bytes}

/-- **A bad line among the complete ones** is reported, and it is the one that would be reported if
the source went on. -/
theorem read_complete_of_isLeast_badAt {i : Nat}
    (h : IsLeast {i | BadAt (completeLines bs) i} i) (e : Failure) (cs : Bytes) :
    ∃ (l : Bytes) (r : Reason) (why : LineError), (completeLines bs)[i]? = some l ∧
      r.First ((completeLines bs).take i) l ∧ r.Reports l why ∧
      read ((completeLines bs).map textOf ++ [.error e]) = .error (.badLine (i + 1) why) ∧
      read (((bs ++ cs).splitOn lineFeed).map textOf) = .error (.badLine (i + 1) why) := by
  obtain ⟨l, r, why, hl, hfirst, hreports, hread⟩ := read_of_isLeast_badAt h
  refine ⟨l, r, why, hl, hfirst, hreports, read_append_of_badLine (hread _ rfl), hread _ ?_⟩
  obtain ⟨rest, hrest⟩ := splitOn_append bs cs
  obtain ⟨hi, -⟩ := List.getElem?_eq_some_iff.mp hl
  rw [hrest, List.take_append_of_le_length hi]

/-- **Without a bad line** among the complete ones the failure is reported, for the line behind
them. -/
theorem read_complete_of_not_badAt (h : ∀ i, ¬BadAt (completeLines bs) i) (e : Failure) :
    read ((completeLines bs).map textOf ++ [.error e]) =
      .error (.badLine (1 + bs.count lineFeed) (.unreadable e)) := by
  obtain ⟨found, hread, -⟩ := readLines_of_not_badAt (fun j _ => h j)
    (Nat.le_refl (completeLines bs).length)
  rw [List.take_length] at hread
  rw [read, readLines_append, hread, List.length_map, length_completeLines]
  rfl

/-! ### Sources of a text -/

/-- A source that fails after some of the bytes is rejected for **a bad line that was complete by
then**: the first bad one of these, which is also what the whole text is rejected for. -/
structure StopsAtLine (t : Bytes) (k : Nat) (i : Option Nat) (f : Nat) (e : Failure) (j : Nat)
    (l : Bytes) (r : Reason) (why : LineError) : Prop where
  least : IsLeast {j | BadAt (completeLines (t.take f)) j} j
  line : (completeLines (t.take f))[j]? = some l
  first : r.First ((completeLines (t.take f)).take j) l
  reports : r.Reports l why
  read : readSource ⟨t, 0, k, some (f, e), i⟩ = .error (.badLine (j + 1) why)
  whole : readSource ⟨t, 0, k, none, i⟩ = .error (.badLine (j + 1) why)

/-- A source that fails after some of the bytes is rejected for **the failure**, in the line behind
the last line feed. -/
structure StopsAtFault (t : Bytes) (k : Nat) (i : Option Nat) (f : Nat) (e : Failure) : Prop where
  read : readSource ⟨t, 0, k, some (f, e), i⟩ =
    .error (.badLine (1 + (t.take f).count lineFeed) (.unreadable e))
  message : (ImportError.badLine (1 + (t.take f).count lineFeed) (.unreadable e)).message =
    "Line " ++ Decimal.text (1 + (t.take f).count lineFeed) ++ ": " ++
      ("Read failed: " ++ e.message)

/-- **What is read of a text**, in chunks of a size and with or without an interruption.

* The same is read from all sources that do not fail, and from a file that holds the text; the words
  for an error in a file lead to its path.
* Nothing but an error is read from a source that fails after some of the bytes. It is for a line
  that was complete by then if one of these is bad, and else for the failure. -/
structure ReadsAlike (t : Bytes) (k : Nat) (i : Option Nat) : Prop where
  source : ∀ k' > 0, ∀ i', readSource ⟨t, 0, k', none, i'⟩ = readSource ⟨t, 0, k, none, i⟩
  file : ∀ (fs : FileSystem) (p : Path) (l : Location), fs.resolve .read p = .ok l →
    fs.node? l = some (.file t) →
      load fs p = (readSource ⟨t, 0, k, none, i⟩).mapError (.invalid p)
  message : ∀ (p : Path) (why : ImportError), loadMessage (.invalid p why) =
    "Invalid statistics in \x27" ++ p.shown ++ "\x27: " ++ why.message
  badLine : ∀ (f : Nat) (e : Failure), f ≤ t.length →
    (∃ j, BadAt (completeLines (t.take f)) j) → ∃ j l r why, StopsAtLine t k i f e j l r why
  fault : ∀ (f : Nat) (e : Failure), f ≤ t.length →
    (∀ j, ¬BadAt (completeLines (t.take f)) j) → StopsAtFault t k i f e

/-- A failing source **within its text** is read up to the failure. -/
theorem readSource_of_fault {t : Bytes} {k f : Nat} (hk : 0 < k) (hf : f ≤ t.length) (e : Failure)
    (i : Option Nat) : readSource ⟨t, 0, k, some (f, e), i⟩ =
      read ((completeLines (t.take f)).map textOf ++ [.error e]) := by
  have hending : Source.ending ⟨t, 0, k, some (f, e), i⟩ = some e := by
    have hreached : f ≤ 0 + t.length := by omega
    exact if_pos hreached
  exact readSource_eq_read_of_fault hk hending

/-- **Whatever source a text comes from**, the same is read of it. -/
theorem readSource_of_any (t : Bytes) {k : Nat} (hk : 0 < k) (i : Option Nat) :
    ReadsAlike t k i := by
  have hwhole (k' : Nat) (hk' : 0 < k') (i' : Option Nat) :
      readSource ⟨t, 0, k', none, i'⟩ = read ((t.splitOn lineFeed).map textOf) :=
    readSource_eq_read hk' rfl
  refine ⟨fun k' hk' i' => ?_, fun fs p l hl hfile => ?_, fun p why => rfl, fun f e hf hbad => ?_,
    fun f e hf hgood => ?_⟩
  · rw [hwhole k' hk', hwhole k hk]
  · have hopen : fs.openToRead p = .ok { rest := t } := by
      rw [FileSystem.openToRead, hl, Except.map, FileSystem.sourceAt, hfile]
    rw [load, FileSystem.load, hopen, hwhole k hk]
    dsimp only
    rw [hwhole 8192 (by decide)]
  · obtain ⟨j, hleast⟩ := exists_isLeast_badAt hbad
    obtain ⟨l, r, why, hl, hfirst, hreports, hread, hon⟩ :=
      read_complete_of_isLeast_badAt hleast e (t.drop f)
    rw [List.take_append_drop] at hon
    exact ⟨j, l, r, why, hleast, hl, hfirst, hreports, (readSource_of_fault hk hf e i).trans hread,
      (hwhole k hk i).trans hon⟩
  · exact ⟨(readSource_of_fault hk hf e i).trans (read_complete_of_not_badAt hgood e), rfl⟩

/-- A comment, a line with an unknown name, and the start of a line. -/
def unfinished : Bytes := Utf8.encode "# cut\nx,y\nrays_".toList

/-- A tree with such a file. -/
def unfinishedFile : FileSystem :=
  { nodes := [([[120]], .file unfinished)], workingDirectory := [] }

/-- Of a source that breaks down in the last line the bad line before is read, and of one that
breaks down in the bad line the failure, also byte by byte and with an interruption. From a file the
bad line is read. -/
theorem readSource_of_any_unfinished :
    readSource ⟨unfinished, 0, 1, some (13, .other "source broke"), some 4⟩ =
        .error (.badLine 2 (.unknownCounter "x")) ∧
      readSource ⟨unfinished, 0, 1, some (8, .other "source broke"), some 4⟩ =
        .error (.badLine 2 (.unreadable (.other "source broke"))) ∧
      (ImportError.badLine 2 (.unreadable (.other "source broke"))).message =
        "Line 2: Read failed: source broke" ∧
      load unfinishedFile ⟨[120]⟩ =
        .error (.invalid ⟨[120]⟩ (.badLine 2 (.unknownCounter "x"))) := by
  have hone : completeLines (unfinished.take 8) = [Utf8.encode "# cut".toList] := by decide +kernel
  have htwo : completeLines (unfinished.take 13) =
      [Utf8.encode "# cut".toList, Utf8.encode "x,y".toList] := by decide +kernel
  have hskips : SkipsLine (Utf8.encode "# cut".toList) := by
    rw [← entryOf_textOf_eq_none_iff, LineReader.textOf_eq_ok_iff.mpr rfl]
    rfl
  have hbad : BadAt (completeLines (unfinished.take 13)) 1 := by
    rw [htwo]
    refine ⟨_, rfl, .unknownName, ['x'], ['y'], ⟨_, rfl, ?_, ?_, by decide⟩, fun c hc => ?_⟩
    · rw [← readEntry_eq_none_iff]
      exact nofun
    · exact Text.trim_eq_iff.mp rfl
    · have hname : ['x'] = c.name.toList := (Text.trim_eq_iff.mpr hc)
      cases c <;> exact absurd hname (by decide)
  have hgood (j : Nat) : ¬BadAt (completeLines (unfinished.take 8)) j := by
    rw [hone]
    rintro ⟨l, hl, r, happlies⟩
    rw [List.mem_singleton.mp (List.mem_of_getElem? hl)] at happlies
    exact not_applies_of_skipsLine hskips r happlies
  have hwhole : readSource ⟨unfinished, 0, 1, none, some 4⟩ =
      .error (.badLine 2 (.unknownCounter "x")) := by
    have hlines : unfinished.splitOn lineFeed =
        [Utf8.encode "# cut".toList, Utf8.encode "x,y".toList, Utf8.encode "rays_".toList] := by
      decide +kernel
    rw [readSource_eq_read (by decide) rfl, hlines]
    simp only [List.map_cons, LineReader.textOf_eq_ok_iff.mpr rfl]
    rfl
  have hany := readSource_of_any unfinished (k := 1) (by decide) (some 4)
  obtain ⟨j, l, r, why, -, -, -, -, hread, hsame⟩ :=
    hany.badLine 13 (.other "source broke") (by decide) ⟨1, hbad⟩
  have hbroken := (hany.fault 8 (.other "source broke") (by decide) hgood).read
  refine ⟨hread.trans (hsame.symm.trans hwhole), hbroken, by decide +kernel, ?_⟩
  rw [hany.file unfinishedFile ⟨[120]⟩ [[120]] rfl rfl, hwhole]
  rfl

end RayTally.Import
