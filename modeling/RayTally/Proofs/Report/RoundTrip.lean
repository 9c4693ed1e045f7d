import RayTally.Proofs.Report.Acceptance
import RayTally.Proofs.Stream.Writing

/-!
# Exports read back

An export is a title line, which is a comment, and then a line for each counter. This module takes
the bytes that were written apart again: the line feeds are where the writer put them, the title is
skipped, and each further line defines the counter for which it was written.

## Main results

* `Export.splitOn_bytes`: the lines of an export.
* `Export.definesLine_line`: the line of a counter defines it.
* `Export.isExport_bytes`: what is written is an export, for every tally.
* `Export.readSource_write`: what is written reads back, for every chunk size of writer and reader.
-/

namespace RayTally.Export

open LineReader (lineFeed)

/-! ### The lines that are written -/

/-- The title line. -/
def titleLine : List Char := "# ".toList ++ reportTitle.toList

/-- The line of a counter. -/
def line (entry : Counter × UInt64) : List Char :=
  entry.1.name.toList ++ ',' :: Decimal.digits entry.2.toNat

/-- The lines of an export, without their line feeds. -/
def lines (t : Tally) : List (List Char) := titleLine :: t.entries.map line

/-- An export is its lines with a line feed behind each. -/
theorem text_eq (t : Tally) : text t = (lines t).flatMap (· ++ ['\n']) := by
  have hentry (e : Counter × UInt64) : (entryLine e).flatten = line e ++ ['\n'] := by
    simp [entryLine, line]
  have hentries (es : List (Counter × UInt64)) :
      (es.flatMap entryLine).flatten = (es.map line).flatMap (· ++ ['\n']) := by
    induction es with
    | nil => rfl
    | cons e es ih =>
      rw [List.flatMap_cons, List.flatten_append, hentry, ih, List.map_cons, List.flatMap_cons]
  rw [text, pieces, List.flatten_append, hentries, lines, List.flatMap_cons]
  rfl

/-- The bytes of a line. -/
theorem bytes_eq_flatMap (t : Tally) :
    bytes t = ((lines t).map Utf8.encode).flatMap (· ++ [lineFeed]) := by
  rw [bytes, text_eq]
  induction lines t with
  | nil => rfl
  | cons l ls ih =>
    rw [List.flatMap_cons, Utf8.encode_append, Utf8.encode_append, ih, List.map_cons,
      List.flatMap_cons]
    rfl

/-- No name has a comma or a line feed in it. -/
theorem notMem_name (c : Counter) : ',' ∉ c.name.toList ∧ '\n' ∉ c.name.toList := by
  cases c <;> decide

/-- No line that is written has a line feed in it. -/
theorem lineFeed_notMem_lines {t : Tally} {l : List Char} (h : l ∈ lines t) : '\n' ∉ l := by
  rcases List.mem_cons.mp h with rfl | h
  · decide
  · obtain ⟨e, -, rfl⟩ := List.mem_map.mp h
    intro hmem
    rcases List.mem_append.mp hmem with hname | hvalue
    · exact (notMem_name e.1).2 hname
    · rcases List.mem_cons.mp hvalue with hcomma | hdigit
      · exact absurd hcomma (by decide)
      · exact absurd (Decimal.isDigit_of_mem_digits hdigit) (by decide)

/-- No line that is written has the byte of a line feed in it. -/
theorem lineFeed_notMem_encode {t : Tally} {l : Bytes} (h : l ∈ (lines t).map Utf8.encode) :
    lineFeed ∉ l := by
  obtain ⟨cs, hcs, rfl⟩ := List.mem_map.mp h
  rw [Utf8.mem_encode_ascii (by decide)]
  exact lineFeed_notMem_lines hcs

/-- **The lines of an export** are found again. -/
theorem splitOn_bytes (t : Tally) :
    (bytes t).splitOn lineFeed = (lines t).map Utf8.encode ++ [[]] := by
  rw [bytes_eq_flatMap, ← splitOn_flatMap (fun _ => lineFeed_notMem_encode) List.not_mem_nil,
    List.append_nil]

/-! ### What the lines say -/

/-- The title is a comment. -/
theorem skipsLine_title : Import.SkipsLine (Utf8.encode titleLine) :=
  Import.skipsLine_encode_iff.mpr (Import.readEntry_eq_none_iff.mp rfl)

/-- There are no blanks to trim from a name. -/
theorem trim_name (c : Counter) : Text.trim c.name.toList = c.name.toList := by
  cases c <;> decide

/-- **The line of a counter** defines the counter, with the value for which it was written. -/
theorem definesLine_line (c : Counter) (n : UInt64) :
    Import.DefinesLine (Utf8.encode (line (c, n))) c n := by
  rw [Import.definesLine_encode_iff, line, Import.defines_around_iff (notMem_name c).1,
    Decimal.trim_digits]
  exact ⟨trim_name c, Decimal.denotes_digits n⟩

/-- What the lines of an export say: the entries, between the title and nothing. -/
theorem readings_splitOn_bytes (t : Tally) :
    Import.readings ((bytes t).splitOn lineFeed) =
      .ok none :: t.entries.map (fun e => .ok (some e)) ++ [.ok none] := by
  have hentry (e : Counter × UInt64) :
      Import.entryOf (LineReader.textOf (Utf8.encode (line e))) = .ok (some e) :=
    Import.entryOf_textOf_eq_some_iff.mpr (definesLine_line e.1 e.2)
  rw [splitOn_bytes, lines, Import.readings]
  simp only [List.map_cons, List.map_append, List.map_map, Function.comp_def, hentry,
    Import.entryOf_textOf_eq_none_iff.mpr skipsLine_title, Import.entryOf_textOf_nil, List.map_nil]

/-- **What is written is an export**, whatever the values are. -/
theorem isExport_bytes (t : Tally) : Import.IsExport ((bytes t).splitOn lineFeed) t := by
  have hentries : Import.entriesOf (Import.readings ((bytes t).splitOn lineFeed)) = t.entries := by
    rw [readings_splitOn_bytes]
    simp [Import.entriesOf, Except.toOption, List.filterMap_append, List.filterMap_map]
  refine Import.isExport_iff.mpr ⟨fun r hr => ?_, ?_, fun c => ?_⟩
  · rw [readings_splitOn_bytes, List.cons_append, List.mem_cons, List.mem_append, List.mem_map,
      List.mem_singleton] at hr
    rcases hr with rfl | ⟨e, -, rfl⟩ | rfl
    · exact ⟨_, rfl⟩
    · exact ⟨_, rfl⟩
    · exact ⟨_, rfl⟩
  · rw [hentries, Tally.entries, List.map_map]
    have hall : Counter.all.map (Prod.fst ∘ fun c => (c, t.get c)) = Counter.all := List.map_id _
    rw [hall]
    exact Counter.nodup_all
  · rw [hentries]
    exact List.mem_map_of_mem (Counter.mem_all c)

/-! ### The round trip -/

/-- **Exports read back**: a sink with room takes the whole export, and whatever source gives the
bytes that the sink took, in chunks of whatever size, is read as the tally that was written. -/
theorem readSource_write (t : Tally) {sink : Sink} (hk : sink.chunk ≠ some 0)
    (hf : sink.Fits (bytes t).length) :
    (write t sink).1 = .ok () ∧
      ∃ bs, (write t sink).2.written = sink.written ++ bs ∧
        ∀ s : Source, s.rest = bs → 0 < s.chunk → s.ending = none →
          Import.readSource s = .ok t := by
  rw [← bytes_eq] at hf
  obtain ⟨sink', hwrite, hwritten⟩ := Sink.writePieces_of_fits hk hf
  rw [write, hwrite]
  refine ⟨rfl, bytes t, by rw [hwritten, bytes_eq], fun s hs hc he => ?_⟩
  rw [Import.readSource_iff_isExport hc he, hs]
  exact isExport_bytes t

/-- The largest values, written and read byte by byte, with an interruption on either side. -/
theorem readSource_write_largest :
    Import.readSource
      ⟨(write (.ofFn fun _ => 0xFFFFFFFFFFFFFFFF) ⟨[], none, some 1, .takeNothing, true⟩).2.written,
        0, 1, none, some 7⟩ = .ok (.ofFn fun _ => 0xFFFFFFFFFFFFFFFF) := by
  obtain ⟨-, bs, hwritten, hread⟩ := readSource_write (.ofFn fun _ => 0xFFFFFFFFFFFFFFFF)
    (show (⟨[], none, some 1, .takeNothing, true⟩ : Sink).chunk ≠ some 0 by decide)
    (Sink.fits_of_unlimited rfl _)
  exact hread _ hwritten (show 0 < 1 by decide) rfl

end RayTally.Export
