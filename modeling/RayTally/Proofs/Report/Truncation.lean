import RayTally.Proofs.Report.RoundTrip

/-!
# Exports that were cut off

An export can lose its end. As long as a digit of the last value is left, it still reads as an
export: the last value is then the number that the digits left over make, and all other values are
as they were. If no digit of it is left, the last counter is not defined, and nothing is read.

## Main results

* `Export.exists_of_definesLine_prefix`: of a line that was cut off only the value can have changed.
* `Export.isExport_cutBytes`: an export that lost some digits is an export of another tally.
* `Export.exists_cut_of_definesLine`: with less than that, no line defines the last counter.
* `Import.readSource_cut`: both together.
-/

namespace RayTally

namespace Import

/-- A text that defines a counter has a comma. -/
theorem Defines.comma_mem {cs : List Char} {c : Counter} {n : UInt64} (h : Defines cs c n) :
    ',' ∈ cs := by
  obtain ⟨_, ⟨before, after, rfl, -⟩, name, value, rfl, -⟩ := h
  simp

end Import

namespace Export

open LineReader (lineFeed)
open Import (DefinesLine)

variable {t : Tally} {c d : Counter} {m n : UInt64} {l bs : Bytes}

/-! ### Lines -/

/-- What is left of the title defines nothing. -/
theorem not_definesLine_prefix_title (h : l <+: Utf8.encode titleLine) : ¬DefinesLine l c n := by
  rintro ⟨cs, rfl, hdef⟩
  have hcomma := (Utf8.prefix_of_encode h).mem hdef.comma_mem
  exact absurd hcomma (by decide)

/-- **What is left of a line** defines only the counter for which the line was written, and its
value is what is left of the value. -/
theorem exists_of_definesLine_prefix (h : l <+: Utf8.encode (line (c, n)))
    (hdef : DefinesLine l d m) :
    d = c ∧ ∃ j, j < (Decimal.digits n.toNat).length ∧
      l = Utf8.encode (c.name.toList ++ ',' :: Decimal.digits (n.toNat / 10 ^ j)) := by
  obtain ⟨cs, rfl, hdef⟩ := hdef
  have hpre := Utf8.prefix_of_encode h
  have hcomma := hdef.comma_mem
  obtain ⟨ds, rfl, hds⟩ : ∃ ds, cs = c.name.toList ++ ',' :: ds ∧
      ds <+: Decimal.digits n.toNat := by
    rcases List.prefix_or_prefix_of_prefix hpre (List.prefix_append _ _) with hname | ⟨es, rfl⟩
    · exact absurd (hname.mem hcomma) (notMem_name c).1
    · rcases List.prefix_cons_iff.mp ((List.prefix_append_right_inj _).mp hpre) with
        rfl | ⟨ds, rfl, hds⟩
      · rw [List.append_nil] at hcomma
        exact absurd hcomma (notMem_name c).1
      · exact ⟨ds, rfl, hds⟩
  obtain ⟨hname, hvalue⟩ := (Import.defines_around_iff (notMem_name c).1).mp hdef
  have hne : ds ≠ [] := by
    rintro rfl
    obtain ⟨es, hes | hes, hsome, -⟩ := hvalue
    · exact hsome hes.symm
    · cases hes
  obtain ⟨j, -, hj, rfl⟩ := Decimal.exists_of_prefix_digits hds hne
  rw [trim_name] at hname
  exact ⟨(Counter.name_injective (String.toList_inj.mp hname)).symm, j, hj, rfl⟩

/-! ### The last line -/

/-- The counters that come before the last one. -/
def earlier : List Counter := Counter.all.dropLast

/-- The lines before the last one. -/
def earlierLines (t : Tally) : List (List Char) :=
  titleLine :: earlier.map fun c => line (c, t.get c)

/-- The bytes before the last line. -/
def earlierBytes (t : Tally) : Bytes :=
  ((earlierLines t).map Utf8.encode).flatMap (· ++ [lineFeed])

/-- The last line comes behind the others. -/
theorem lines_eq (t : Tally) :
    lines t = earlierLines t ++ [line (.raysMissed, t.get .raysMissed)] := rfl

theorem bytes_eq_append (t : Tally) :
    bytes t = earlierBytes t ++ (Utf8.encode (line (.raysMissed, t.get .raysMissed)) ++
      [lineFeed]) := by
  rw [bytes_eq_flatMap, lines_eq, List.map_append, List.flatMap_append, earlierBytes]
  simp

/-- The lines before the last one do not depend on the last value. -/
theorem earlierLines_set (t : Tally) (n : UInt64) :
    earlierLines (t.set .raysMissed n) = earlierLines t := by
  have hget : ∀ c ∈ earlier, (t.set .raysMissed n).get c = t.get c := by
    intro c hc
    have hne : Counter.raysMissed ≠ c := by
      rintro rfl
      exact absurd hc (by decide)
    rw [Tally.get_set, if_neg hne]
  rw [earlierLines, earlierLines]
  exact congrArg (titleLine :: ·) (List.map_congr_left fun c hc => by rw [hget c hc])

/-- No line before the last one, and nothing that is left of it, defines the last counter. -/
theorem not_definesLine_earlier (hl : bs ∈ (earlierLines t).map Utf8.encode) (h : l <+: bs) :
    ¬DefinesLine l .raysMissed n := by
  intro hdef
  obtain ⟨cs, hcs, rfl⟩ := List.mem_map.mp hl
  rcases List.mem_cons.mp hcs with rfl | hcs
  · exact not_definesLine_prefix_title h hdef
  · obtain ⟨c, hc, rfl⟩ := List.mem_map.mp hcs
    obtain ⟨rfl, -⟩ := exists_of_definesLine_prefix h hdef
    exact absurd hc (by decide)

/-- Neither the last line nor those before it have a line feed in them. -/
theorem lineFeed_notMem_last (t : Tally) :
    (∀ l ∈ (earlierLines t).map Utf8.encode, lineFeed ∉ l) ∧
      lineFeed ∉ Utf8.encode (line (.raysMissed, t.get .raysMissed)) := by
  have hlines : ∀ l ∈ (lines t).map Utf8.encode, lineFeed ∉ l := fun _ => lineFeed_notMem_encode
  rw [lines_eq, List.map_append, List.forall_mem_append, List.map_singleton,
    List.forall_mem_singleton] at hlines
  exact hlines

/-! ### Cuts -/

/-- **The lines of a text that was cut off** are what is left of the lines of the whole. -/
theorem exists_of_mem_splitOn_prefix {ls : List Bytes} (hls : ∀ l ∈ ls, lineFeed ∉ l)
    (h : bs <+: ls.flatMap (· ++ [lineFeed])) (hl : l ∈ bs.splitOn lineFeed) :
    l = [] ∨ ∃ l' ∈ ls, l <+: l' := by
  induction ls generalizing bs with
  | nil =>
    rw [List.flatMap_nil, List.prefix_nil] at h
    rw [h, List.splitOn_nil, List.mem_singleton] at hl
    exact .inl hl
  | cons first ls ih =>
    rw [List.forall_mem_cons] at hls
    rw [List.flatMap_cons] at h
    have hfirst : bs <+: first ∨ first ++ [lineFeed] <+: bs := by
      rcases List.prefix_or_prefix_of_prefix h (List.prefix_append _ _) with hpre | hpre
      · rcases List.prefix_concat_iff.mp hpre with rfl | hpre
        · exact .inr List.prefix_rfl
        · exact .inl hpre
      · exact .inr hpre
    rcases hfirst with hpre | ⟨cs, rfl⟩
    · rw [List.splitOn_eq_singleton fun hmem => hls.1 (hpre.mem hmem), List.mem_singleton] at hl
      exact .inr ⟨first, List.mem_cons_self, hl ▸ hpre⟩
    · rw [List.append_assoc, List.singleton_append,
        List.splitOn_append_cons_self_of_not_mem hls.1, List.mem_cons] at hl
      rcases hl with rfl | hl
      · exact .inr ⟨_, List.mem_cons_self, List.prefix_rfl⟩
      · rcases ih hls.2 ((List.prefix_append_right_inj _).mp h) hl with hnil | ⟨l', hl', hpre⟩
        · exact .inl hnil
        · exact .inr ⟨l', List.mem_cons_of_mem _ hl', hpre⟩

/-- The bytes of an export **without its last line feed and the last `j` digits**. -/
def cutBytes (t : Tally) (j : Nat) : Bytes :=
  earlierBytes t ++ Utf8.encode (Counter.raysMissed.name.toList ++
    ',' :: Decimal.digits ((t.get .raysMissed).toNat / 10 ^ j))

/-- **Only what has a digit of the last value left** defines the last counter. -/
theorem exists_cut_of_definesLine (h : bs <+: bytes t) (hcut : bs ≠ bytes t)
    (hl : l ∈ bs.splitOn lineFeed) (hdef : DefinesLine l .raysMissed n) :
    ∃ j, j < (Decimal.digits (t.get .raysMissed).toNat).length ∧ bs = cutBytes t j := by
  obtain ⟨hearlier, hlast⟩ := lineFeed_notMem_last t
  rw [bytes_eq_append] at h hcut
  rcases List.prefix_or_prefix_of_prefix h (List.prefix_append _ _) with hpre | ⟨last, rfl⟩
  · rcases exists_of_mem_splitOn_prefix hearlier hpre hl with rfl | ⟨l', hl', hpre⟩
    · exact absurd hdef (not_definesLine_prefix_title List.nil_prefix)
    · exact absurd hdef (not_definesLine_earlier hl' hpre)
  · rcases List.prefix_concat_iff.mp ((List.prefix_append_right_inj _).mp h) with rfl | hpre
    · exact absurd rfl hcut
    · rw [earlierBytes, splitOn_flatMap hearlier fun hmem => hlast (hpre.mem hmem), List.mem_append,
        List.mem_singleton] at hl
      rcases hl with hl | rfl
      · exact absurd hdef (not_definesLine_earlier hl List.prefix_rfl)
      · obtain ⟨-, j, hj, rfl⟩ := exists_of_definesLine_prefix hpre hdef
        exact ⟨j, hj, rfl⟩

/-- **What a cut takes away** is as many bytes as it takes digits, and the last line feed. -/
theorem exists_cutBytes_append {j : Nat}
    (hj : j < (Decimal.digits (t.get .raysMissed).toNat).length) :
    ∃ gone : Bytes, bytes t = cutBytes t j ++ gone ∧ gone.length = j + 1 := by
  let ds := Decimal.digits (t.get .raysMissed).toNat
  have hkept : Decimal.digits ((t.get .raysMissed).toNat / 10 ^ j) = ds.take (ds.length - j) :=
    (Decimal.take_digits hj).symm
  have hgone : (Utf8.encode (ds.drop (ds.length - j))).length = j := by
    rw [Utf8.length_encode_of_ascii fun _ hc =>
      Decimal.toNat_lt_of_mem_digits (List.mem_of_mem_drop hc), List.length_drop]
    exact Nat.sub_sub_self (Nat.le_of_lt hj)
  refine ⟨Utf8.encode (ds.drop (ds.length - j)) ++ [lineFeed], ?_, ?_⟩
  · have hline : line (.raysMissed, t.get .raysMissed) =
        Counter.raysMissed.name.toList ++ ',' :: ds.take (ds.length - j) ++
          ds.drop (ds.length - j) := by
      rw [List.append_assoc, List.cons_append, List.take_append_drop]
      rfl
    rw [bytes_eq_append, hline, Utf8.encode_append, cutBytes, hkept, List.append_assoc,
      List.append_assoc]
  · rw [List.length_append, hgone, List.length_singleton]

/-- The value that the digits left over make is a 64-bit number. -/
theorem toNat_cut (n : UInt64) (j : Nat) :
    (n.toNat / 10 ^ j).toUInt64.toNat = n.toNat / 10 ^ j := by
  rw [Nat.toUInt64_eq, UInt64.toNat_ofNat_of_lt']
  exact Nat.lt_of_le_of_lt (Nat.div_le_self _ _) n.toNat_lt_size

/-- **An export that lost some digits** has the lines of the export of another tally. -/
theorem splitOn_cutBytes (t : Tally) (j : Nat) :
    (cutBytes t j).splitOn lineFeed =
      (lines (t.set .raysMissed ((t.get .raysMissed).toNat / 10 ^ j).toUInt64)).map
        Utf8.encode := by
  let cut := t.set .raysMissed ((t.get .raysMissed).toNat / 10 ^ j).toUInt64
  have hlast : Counter.raysMissed.name.toList ++
      ',' :: Decimal.digits ((t.get .raysMissed).toNat / 10 ^ j) =
        line (.raysMissed, cut.get .raysMissed) := by
    rw [Tally.get_set_self, line, toNat_cut]
  obtain ⟨hearlier, hnone⟩ := lineFeed_notMem_last cut
  rw [cutBytes, hlast, earlierBytes, ← earlierLines_set t, splitOn_flatMap hearlier hnone, lines_eq,
    List.map_append, List.map_singleton]

/-- **An export that lost some digits** is an export of the tally with the value that they make. -/
theorem isExport_cutBytes (t : Tally) (j : Nat) :
    Import.IsExport ((cutBytes t j).splitOn lineFeed)
      (t.set .raysMissed ((t.get .raysMissed).toNat / 10 ^ j).toUInt64) := by
  let cut := t.set .raysMissed ((t.get .raysMissed).toNat / 10 ^ j).toUInt64
  have hskips : Import.SkipsLine [] :=
    Import.entryOf_textOf_eq_none_iff.mp Import.entryOf_textOf_nil
  have hwhole := isExport_bytes cut
  rw [splitOn_bytes,
    (Import.Restyled.reorder (List.perm_append_singleton _ _)).isExport_iff] at hwhole
  rw [splitOn_cutBytes, (Import.Restyled.skipped hskips _).isExport_iff]
  exact hwhole

end Export

namespace Import

open LineReader (lineFeed)

/-- **Exports that were cut off.** From what is left of an export without its end, a tally is read
exactly if a digit of the last value is left, which is to say that no more bytes are gone than the
value has digits.

* If no digit is left reading fails.
* If `j` digits are gone, and with them the line feed, then the last value is read without its last
  `j` digits, and all other values as they were.
* If only the line feed is gone then what was written is read. -/
theorem readSource_cut (t : Tally) {s : Source} (hc : 0 < s.chunk) (he : s.ending = none)
    (hp : s.rest <+: Export.bytes t) (hcut : s.rest ≠ Export.bytes t) :
    ((∃ t', readSource s = .ok t') ↔
        (Export.bytes t).length ≤
          s.rest.length + (Decimal.digits (t.get .raysMissed).toNat).length) ∧
      (s.rest.length + (Decimal.digits (t.get .raysMissed).toNat).length < (Export.bytes t).length →
        ∃ why, readSource s = .error why) ∧
      (∀ j, j < (Decimal.digits (t.get .raysMissed).toNat).length →
        s.rest.length + 1 + j = (Export.bytes t).length →
          readSource s =
            .ok (t.set .raysMissed ((t.get .raysMissed).toNat / 10 ^ j).toUInt64)) ∧
      (s.rest.length + 1 = (Export.bytes t).length → readSource s = .ok t) := by
  have hlt : s.rest.length < (Export.bytes t).length :=
    Nat.lt_of_le_of_ne hp.length_le fun hlen => hcut (hp.eq_of_length hlen)
  have hread (j : Nat) (hj : j < (Decimal.digits (t.get .raysMissed).toNat).length)
      (hlen : s.rest.length + 1 + j = (Export.bytes t).length) :
      readSource s = .ok (t.set .raysMissed ((t.get .raysMissed).toNat / 10 ^ j).toUInt64) := by
    obtain ⟨gone, hbytes, hgone⟩ := Export.exists_cutBytes_append hj
    have hsame : s.rest = Export.cutBytes t j := by
      rw [hbytes] at hp
      refine (List.prefix_of_prefix_length_le hp (List.prefix_append _ _) ?_).eq_of_length ?_
      all_goals rw [hbytes, List.length_append, hgone] at hlen; omega
    rw [readSource_iff_isExport hc he, hsame]
    exact Export.isExport_cutBytes t j
  have hdigit (t' : Tally) (h : readSource s = .ok t') :
      (Export.bytes t).length ≤
        s.rest.length + (Decimal.digits (t.get .raysMissed).toNat).length := by
    rw [readSource_iff_isExport hc he] at h
    obtain ⟨i, ⟨l, n, hl, hdef⟩, -⟩ := h.once .raysMissed
    obtain ⟨j, hj, hsame⟩ :=
      Export.exists_cut_of_definesLine hp hcut (List.mem_of_getElem? hl) hdef
    obtain ⟨gone, hbytes, hgone⟩ := Export.exists_cutBytes_append hj
    rw [hbytes, hsame, List.length_append, hgone]
    omega
  refine ⟨⟨fun ⟨t', h⟩ => hdigit t' h, fun hle => ⟨_, hread
    ((Export.bytes t).length - s.rest.length - 1) (by omega) (by omega)⟩⟩, fun hshort => ?_, hread,
    fun hlen => ?_⟩
  · cases h : readSource s with
    | error why => exact ⟨why, rfl⟩
    | ok t' => exact absurd (hdigit t' h) (Nat.not_le_of_lt hshort)
  · rw [hread 0 (List.length_pos_iff.mpr (Decimal.digits_ne_nil _)) hlen, Nat.pow_zero, Nat.div_one,
      Nat.toUInt64_eq, UInt64.ofNat_toNat, Tally.set_get_self]

/-- Of a last value of 120 two digits can be gone, and it is read as 1. Without the third one
reading fails. -/
theorem readSource_cut_oneHundredTwenty :
    readSource ⟨(Export.bytes (Tally.zero.set .raysMissed 120)).take 272, 0, 1, none, none⟩ =
        .ok (Tally.zero.set .raysMissed 1) ∧
      ∃ why,
        readSource ⟨(Export.bytes (Tally.zero.set .raysMissed 120)).take 271, 0, 1, none, none⟩ =
        .error why := by
  let t := Tally.zero.set .raysMissed 120
  have hdigits : (Decimal.digits (t.get .raysMissed).toNat).length = 3 := by decide +kernel
  have hlen : (Export.bytes t).length = 275 := by decide +kernel
  have htake {n : Nat} (hn : n < 275) :
      ((Export.bytes t).take n).length = n ∧ (Export.bytes t).take n ≠ Export.bytes t := by
    have hlength : ((Export.bytes t).take n).length = n :=
      List.length_take_of_le (hlen ▸ Nat.le_of_lt hn)
    refine ⟨hlength, fun hsame => ?_⟩
    rw [hsame, hlen] at hlength
    omega
  obtain ⟨hone, hwhole⟩ := htake (n := 272) (by decide)
  obtain ⟨hnone, hwhole'⟩ := htake (n := 271) (by decide)
  have hvalue : t.set .raysMissed ((t.get .raysMissed).toNat / 10 ^ 2).toUInt64 =
      Tally.zero.set .raysMissed 1 := by
    decide +kernel
  constructor
  · rw [← hvalue]
    exact (readSource_cut t (s := ⟨_, 0, 1, none, none⟩) (show 0 < 1 by decide) rfl
      (List.take_prefix 272 _) hwhole).2.2.1 2 (by rw [hdigits]; decide) (by rw [hone, hlen])
  · exact (readSource_cut t (s := ⟨_, 0, 1, none, none⟩) (show 0 < 1 by decide) rfl
      (List.take_prefix 271 _) hwhole').2.1 (by rw [hnone, hlen, hdigits]; decide)

end Import

end RayTally
