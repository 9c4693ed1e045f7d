import Mathlib.Order.Bounds.Basic
import Mathlib.Order.WellFounded
import RayTally.Proofs.Report.Acceptance

/-!
# Why a text is no export

A line can be bad for five reasons, and several may apply to it at once. `Import.readSource` goes
from line to line and from reason to reason, and gives up at the first that applies. This module
says what each reason is without the others in mind, so that it can say which of them is reported:
the first one of the first bad line, whatever comes after that line. If no line is bad, the counters
are reported that no line defines.

## Main results

* `Import.readLine_of_first` / `Import.readLine_of_not_applies`: a bad line is reported for its
  first reason, and any other is read.
* `Import.readSource_eq_read`: a source that does not fail is read as its pieces between line feeds.
* `Import.readLines_of_not_badAt`: the loop gets past lines that are not bad.
* `Import.read_of_isLeast_badAt`: the first bad line is reported, whatever follows it.
* `Import.read_of_undefined`: else the counters are reported that are not defined.
* `Import.readSource_eq_error`: all of it, for sources.
-/

namespace RayTally.Import

open LineReader (lineFeed textOf)
open Text

/-! ### Reasons -/

/-- Why a line can be **bad**. -/
inductive Reason
  | notUtf8
  | noComma
  | unknownName
  | badValue
  | duplicate
  deriving DecidableEq, Repr

/-- The order in which reasons are looked for. -/
def Reason.rank : Reason → Nat
  | notUtf8 => 0
  | noComma => 1
  | unknownName => 2
  | badValue => 3
  | duplicate => 4

/-- The two parts of a line that is neither blank nor a comment: what stands before its first comma,
and what stands behind it. -/
def Parts (l : Bytes) (name value : List Char) : Prop :=
  ∃ cs, Utf8.encode cs = l ∧ ¬Skips cs ∧ TrimsTo cs (name ++ ',' :: value) ∧ ',' ∉ name

/-- One of the lines defines the counter. -/
def Defined (ls : List Bytes) (c : Counter) : Prop := ∃ l ∈ ls, ∃ n, DefinesLine l c n

/-- The reason **applies** to a line that comes after others. None of them depends on whether
another one applies as well: a value can be bad whether or not the name is known, and a line names a
counter that is defined before whether or not its own value is good. -/
def Reason.Applies (earlier : List Bytes) (l : Bytes) : Reason → Prop
  | notUtf8 => ¬∃ cs, Utf8.encode cs = l
  | noComma => ∃ cs, Utf8.encode cs = l ∧ ¬Skips cs ∧ ',' ∉ cs
  | unknownName => ∃ name value, Parts l name value ∧ ∀ c : Counter, ¬TrimsTo name c.name.toList
  | badValue => ∃ name value, Parts l name value ∧
      ∀ (numeral : List Char) (n : UInt64), TrimsTo value numeral → ¬Decimal.Denotes numeral n.toNat
  | duplicate => ∃ name value, Parts l name value ∧
      ∃ c : Counter, TrimsTo name c.name.toList ∧ Defined earlier c

/-- The reason is the **first** one that applies. -/
def Reason.First (earlier : List Bytes) (l : Bytes) (r : Reason) : Prop :=
  r.Applies earlier l ∧ ∀ r' : Reason, r'.Applies earlier l → r.rank ≤ r'.rank

/-- What is **reported** for a reason: what the line has in place of a counter or of a value, and
the counter that it names. -/
inductive Reason.Reports (l : Bytes) : Reason → LineError → Prop
  | notUtf8 : Reports l .notUtf8 (.unreadable .notUtf8)
  | noComma : Reports l .noComma .noComma
  | unknownName {name value : List Char} (h : Parts l name value) :
      Reports l .unknownName (.unknownCounter (String.ofList name))
  | badValue {name value : List Char} {c : Counter} (h : Parts l name value)
      (hc : TrimsTo name c.name.toList) (why : Decimal.NumeralError) :
      Reports l .badValue (.badValue (String.ofList value) c why)
  | duplicate {name value : List Char} {c : Counter} (h : Parts l name value)
      (hc : TrimsTo name c.name.toList) : Reports l .duplicate (.duplicate c)

/-- The line at a place, counted from 0, is **bad**. Lines that are skipped have a place too. -/
def BadAt (ls : List Bytes) (i : Nat) : Prop :=
  ∃ l, ls[i]? = some l ∧ ∃ r : Reason, r.Applies (ls.take i) l

/-! ### Parts of a line -/

variable {l : Bytes} {name value : List Char} {earlier : List Bytes} {r : Reason}

/-- Every line **is one of four kinds**: no text at all, skipped, without a comma, or made of two
parts. -/
theorem line_cases (l : Bytes) :
    (¬∃ cs, Utf8.encode cs = l) ∨ SkipsLine l ∨
      (∃ cs, Utf8.encode cs = l ∧ ¬Skips cs ∧ ',' ∉ cs) ∨ ∃ name value, Parts l name value := by
  by_cases htext : ∃ cs, Utf8.encode cs = l
  · obtain ⟨cs, hcs⟩ := htext
    by_cases hskips : Skips cs
    · exact .inr (.inl ⟨cs, hcs, hskips⟩)
    by_cases hcomma : ',' ∈ cs
    · right; right; right
      cases hsplit : splitAtFirst ',' (trim cs) with
      | none =>
        rw [splitAtFirst_eq_none_iff] at hsplit
        obtain ⟨before, after, hbetween, hb, ha, -, -⟩ := trimsTo_trim cs
        rw [hbetween, List.mem_append, List.mem_append] at hcomma
        rcases hcomma with (hmem | hmem) | hmem
        · exact absurd (hb ',' hmem) (by decide)
        · exact absurd hmem hsplit
        · exact absurd (ha ',' hmem) (by decide)
      | some p =>
        obtain ⟨htrim, hname⟩ := splitAtFirst_eq_some_iff.mp hsplit
        exact ⟨p.1, p.2, cs, hcs, hskips, htrim ▸ trimsTo_trim cs, hname⟩
    · exact .inr (.inr (.inl ⟨cs, hcs, hskips, hcomma⟩))
  · exact .inl htext

/-! ### What is read from each kind of line -/

/-- A line that has no text is reported for that. -/
theorem entryOf_textOf_of_no_text (h : ¬∃ cs, Utf8.encode cs = l) :
    entryOf (textOf l) = .error (.unreadable .notUtf8) := by
  have hdecode : Utf8.decode l = none := by
    rw [Option.eq_none_iff_forall_ne_some]
    exact fun cs hcs => h ⟨cs, Utf8.decode_eq_some_iff.mp hcs⟩
  rw [textOf, hdecode, entryOf]

/-- A text without a comma is reported for that, unless it is skipped. -/
theorem readEntry_of_no_comma {cs : List Char} (hskips : ¬Skips cs) (hcomma : ',' ∉ cs) :
    readEntry cs = .error .noComma := by
  have hsplit : splitAtFirst ',' (trim cs) = none := by
    rw [splitAtFirst_eq_none_iff]
    obtain ⟨before, after, hbetween, -⟩ := trimsTo_trim cs
    intro hmem
    rw [hbetween] at hcomma
    exact hcomma (List.mem_append_left _ (List.mem_append_right _ hmem))
  rw [← readEntry_eq_none_iff] at hskips
  rw [readEntry] at hskips ⊢
  split
  · exact absurd (by simp_all) hskips
  · exact absurd (by simp_all) hskips
  · rw [hsplit]

/-- **A line with two parts** is read from its name and its value, in this order. -/
theorem Parts.entryOf_eq (h : Parts l name value) :
    entryOf (textOf l) =
      match Counter.ofName? (String.ofList (trim name)) with
      | none => .error (.unknownCounter (String.ofList name))
      | some c =>
        match Decimal.readUInt64 (trim value) with
        | .error why => .error (.badValue (String.ofList value) c why)
        | .ok n => .ok (some (c, n)) := by
  obtain ⟨cs, hcs, hskips, htrim, hname⟩ := h
  rw [LineReader.textOf_eq_ok_iff.mpr hcs, entryOf]
  rw [← readEntry_eq_none_iff] at hskips
  rw [readEntry] at hskips ⊢
  rw [trim_of_trimsTo htrim] at hskips ⊢
  have hsplit : splitAtFirst ',' (name ++ ',' :: value) = some (name, value) :=
    splitAtFirst_eq_some_iff.mpr ⟨rfl, hname⟩
  split
  · exact absurd (by simp_all) hskips
  · exact absurd (by simp_all) hskips
  · split
    · rename_i hnone
      rw [hsplit] at hnone
      cases hnone
    · rename_i name' value' hsome
      rw [hsplit] at hsome
      cases hsome
      rfl

/-- Where a line with two parts has the name of a counter and a numeral, it **defines the
counter**. -/
theorem Parts.definesLine {numeral : List Char} {c : Counter} {n : UInt64} (h : Parts l name value)
    (hc : TrimsTo name c.name.toList) (hv : TrimsTo value numeral)
    (hn : Decimal.Denotes numeral n.toNat) : DefinesLine l c n := by
  obtain ⟨cs, hcs, -, htrim, hname⟩ := h
  exact ⟨cs, hcs, _, htrim, name, value, rfl, hname, hc, numeral, hv, hn⟩

/-- The name of a line is known if it is not reported as unknown. -/
theorem Parts.exists_counter (h : Parts l name value)
    (hknown : ¬Reason.unknownName.Applies earlier l) :
    ∃ c : Counter, TrimsTo name c.name.toList := by
  by_contra hno
  exact hknown ⟨name, value, h, not_exists.mp hno⟩

/-- The value of a line is the numeral of a number if it is not reported as bad. -/
theorem Parts.exists_numeral (h : Parts l name value) (hgood : ¬Reason.badValue.Applies earlier l) :
    ∃ (numeral : List Char) (n : UInt64), TrimsTo value numeral ∧
      Decimal.Denotes numeral n.toNat := by
  by_contra hno
  exact hgood ⟨name, value, h, fun numeral n hv hn => hno ⟨numeral, n, hv, hn⟩⟩

/-- A line that **no reason applies to** is skipped, or it defines a counter that was not
defined. -/
theorem skips_or_defines (h : ∀ r : Reason, ¬r.Applies earlier l) :
    SkipsLine l ∨ ∃ c n, DefinesLine l c n ∧ ¬Defined earlier c := by
  rcases line_cases l with htext | hskips | hcomma | ⟨name, value, hparts⟩
  · exact absurd htext (h .notUtf8)
  · exact .inl hskips
  · exact absurd hcomma (h .noComma)
  · right
    obtain ⟨c, hc⟩ := hparts.exists_counter (h .unknownName)
    obtain ⟨numeral, n, hv, hn⟩ := hparts.exists_numeral (h .badValue)
    exact ⟨c, n, hparts.definesLine hc hv hn,
      fun hdefined => h .duplicate ⟨name, value, hparts, c, hc, hdefined⟩⟩

/-! ### One line -/

/-- Of the reasons that apply to a line, one is the **first**. -/
theorem Reason.Applies.exists_first (h : r.Applies earlier l) :
    ∃ r' : Reason, r'.First earlier l := by
  obtain ⟨r', hr', hmin⟩ :=
    (measure Reason.rank).wf.has_min {r : Reason | r.Applies earlier l} ⟨r, h⟩
  exact ⟨r', hr', fun r'' hr'' => Nat.le_of_not_lt (hmin r'' hr'')⟩

/-- What was found is **what the lines so far define**. -/
def Knows (found : Found) (ls : List Bytes) : Prop :=
  ∀ c, (found.lookup c).isSome = true ↔ Defined ls c

variable {found : Found}

/-- A bad line is **reported for its first reason**. -/
theorem readLine_of_first (hk : Knows found earlier) (h : r.First earlier l) :
    ∃ why, r.Reports l why ∧ readLine found (textOf l) = .error why := by
  obtain ⟨happlies, hfirst⟩ := h
  cases r with
  | notUtf8 => exact ⟨_, .notUtf8, by rw [readLine_eq, entryOf_textOf_of_no_text happlies]⟩
  | noComma =>
    obtain ⟨cs, hcs, hskips, hcomma⟩ := happlies
    refine ⟨_, .noComma, ?_⟩
    rw [readLine_eq, LineReader.textOf_eq_ok_iff.mpr hcs, entryOf,
      readEntry_of_no_comma hskips hcomma]
  | unknownName =>
    obtain ⟨name, value, hparts, hunknown⟩ := happlies
    have hname : Counter.ofName? (String.ofList (trim name)) = none := by
      rw [Option.eq_none_iff_forall_ne_some]
      exact fun c hc => hunknown c (trim_eq_iff.mp (ofName?_ofList_eq_some_iff.mp hc))
    exact ⟨_, .unknownName hparts, by rw [readLine_eq, hparts.entryOf_eq, hname]⟩
  | badValue =>
    obtain ⟨name, value, hparts, hbad⟩ := happlies
    obtain ⟨c, hc⟩ := hparts.exists_counter
      fun happlies => absurd (hfirst .unknownName happlies) (by decide)
    cases hread : Decimal.readUInt64 (trim value) with
    | ok n =>
      exact absurd (Decimal.readUInt64_eq_ok_iff.mp hread) (hbad _ n (trimsTo_trim value))
    | error why =>
      refine ⟨_, .badValue hparts hc why, ?_⟩
      rw [readLine_eq, hparts.entryOf_eq, ofName?_ofList_eq_some_iff.mpr (trim_of_trimsTo hc),
        hread]
  | duplicate =>
    obtain ⟨name, value, hparts, c, hc, hdefined⟩ := happlies
    obtain ⟨numeral, n, hv, hn⟩ := hparts.exists_numeral
      fun happlies => absurd (hfirst .badValue happlies) (by decide)
    refine ⟨_, .duplicate hparts hc, ?_⟩
    rw [readLine_eq, entryOf_textOf_eq_some_iff.mpr (hparts.definesLine hc hv hn)]
    exact if_pos ((hk c).mpr hdefined)

/-- A line behind others defines what they define and what it defines itself. -/
theorem defined_append_singleton_iff {c : Counter} :
    Defined (earlier ++ [l]) c ↔ Defined earlier c ∨ ∃ n, DefinesLine l c n := by
  simp only [Defined, List.mem_append, List.mem_singleton, or_and_right, exists_or, exists_eq_left]

/-- A line that is not bad **is read**, and then what was found is what the lines define with it. -/
theorem readLine_of_not_applies (hk : Knows found earlier)
    (h : ∀ r : Reason, ¬r.Applies earlier l) :
    ∃ found', readLine found (textOf l) = .ok found' ∧ Knows found' (earlier ++ [l]) := by
  rcases skips_or_defines h with hskips | ⟨c, n, hdefines, hnew⟩
  · refine ⟨found, by rw [readLine_eq, entryOf_textOf_eq_none_iff.mpr hskips], fun d => ?_⟩
    rw [hk d, defined_append_singleton_iff, or_iff_left]
    rintro ⟨n, hdefines⟩
    rw [← entryOf_textOf_eq_some_iff, entryOf_textOf_eq_none_iff.mpr hskips] at hdefines
    cases hdefines
  · have hentry := entryOf_textOf_eq_some_iff.mpr hdefines
    refine ⟨(c, n) :: found, ?_, fun d => ?_⟩
    · rw [readLine_eq, hentry]
      exact if_neg (mt (hk c).mp hnew)
    · have hself : (∃ k, DefinesLine l d k) ↔ d = c := by
        simp only [← entryOf_textOf_eq_some_iff, hentry, Except.ok.injEq, Option.some.injEq,
          Prod.mk.injEq, exists_and_left, exists_eq', and_true, eq_comm]
      rw [defined_append_singleton_iff, hself, ← hk d, List.lookup_cons]
      by_cases hdc : d = c
      · simp [hdc]
      · simp [hdc, beq_eq_false_iff_ne.mpr hdc]

/-- **No reason applies to a line that is skipped**, whatever stands before it. -/
theorem not_applies_of_skipsLine (h : SkipsLine l) (r : Reason) : ¬r.Applies earlier l := by
  obtain ⟨ds, hds, hskips⟩ := h
  have htext (cs : List Char) (hcs : Utf8.encode cs = l) : Skips cs :=
    Utf8.encode_injective (hds.trans hcs.symm) ▸ hskips
  intro happlies
  cases r with
  | notUtf8 => exact happlies ⟨ds, hds⟩
  | noComma =>
    obtain ⟨cs, hcs, hno, -⟩ := happlies
    exact hno (htext cs hcs)
  | unknownName | badValue | duplicate =>
    obtain ⟨name, value, ⟨cs, hcs, hno, -⟩, -⟩ := happlies
    exact hno (htext cs hcs)

/-! ### The loop -/

/-- Lines behind others are read onto what those define. -/
theorem readLines_append (n : Nat) (found : Found) (xs ys : List (Except Failure (List Char))) :
    readLines n found (xs ++ ys) =
      match readLines n found xs with
      | .error e => .error e
      | .ok found' => readLines (n + xs.length) found' ys := by
  induction xs generalizing n found with
  | nil => rfl
  | cons x xs ih =>
    rw [List.cons_append, readLines, readLines]
    cases readLine found x with
    | error why => rfl
    | ok found' => rw [List.length_cons, Nat.add_comm xs.length, ← Nat.add_assoc, ← ih]

variable {ls : List Bytes} {i : Nat}

/-- **Without a bad line** the loop gets past as many lines as one likes. -/
theorem readLines_of_not_badAt (h : ∀ j < i, ¬BadAt ls j) (hi : i ≤ ls.length) :
    ∃ found, readLines 1 [] ((ls.take i).map textOf) = .ok found ∧ Knows found (ls.take i) := by
  induction i with
  | zero =>
    refine ⟨[], rfl, fun c => ?_⟩
    simp [Defined]
  | succ i ih =>
    obtain ⟨found, hread, hk⟩ := ih (fun j hj => h j (Nat.lt_succ_of_lt hj)) (Nat.le_of_succ_le hi)
    have hl : ls[i]? = some ls[i] := List.getElem?_eq_getElem hi
    obtain ⟨found', hline, hk'⟩ := readLine_of_not_applies hk
      fun r hr => h i (Nat.lt_succ_self i) ⟨ls[i], hl, r, hr⟩
    rw [List.take_succ_eq_append_getElem hi]
    refine ⟨found', ?_, hk'⟩
    rw [List.map_append, readLines_append, hread]
    simp only [List.map_singleton, readLines, hline]

/-- **The first bad line is reported**, whatever follows it. -/
theorem read_of_isLeast_badAt (h : IsLeast {i | BadAt ls i} i) :
    ∃ (l : Bytes) (r : Reason) (why : LineError), ls[i]? = some l ∧ r.First (ls.take i) l ∧
      r.Reports l why ∧
      ∀ ls' : List Bytes, ls'.take (i + 1) = ls.take (i + 1) →
        read (ls'.map textOf) = .error (.badLine (i + 1) why) := by
  obtain ⟨⟨l, hl, r, hr⟩, hleast⟩ := h
  obtain ⟨hi, rfl⟩ := List.getElem?_eq_some_iff.mp hl
  obtain ⟨found, hread, hk⟩ := readLines_of_not_badAt
    (fun j hj hbad => absurd (hleast hbad) (Nat.not_le_of_lt hj)) (Nat.le_of_lt hi)
  obtain ⟨r', hfirst⟩ := hr.exists_first
  obtain ⟨why, hreports, hline⟩ := readLine_of_first hk hfirst
  refine ⟨_, r', why, hl, hfirst, hreports, fun ls' hsame => ?_⟩
  have hlines : readLines 1 [] (ls'.map textOf) = .error (.badLine (i + 1) why) := by
    rw [← List.take_append_drop (i + 1) ls', hsame, List.take_succ_eq_append_getElem hi,
      List.append_assoc, List.map_append, readLines_append, hread, List.length_map,
      List.length_take_of_le (Nat.le_of_lt hi), Nat.add_comm 1 i, List.singleton_append,
      List.map_cons]
    simp only [readLines, hline]
  rw [read, hlines]

/-- What is read depends on lines only through what they say. -/
theorem readLines_congr {n : Nat} {found : Found} {xs ys : List (Except Failure (List Char))}
    (h : xs.map entryOf = ys.map entryOf) : readLines n found xs = readLines n found ys := by
  induction xs generalizing n found ys with
  | nil => rw [List.map_eq_nil_iff.mp h.symm]
  | cons x xs ih =>
    obtain ⟨y, ys, rfl, hxy, hrest⟩ := List.map_eq_cons_iff.mp h.symm
    rw [readLines, readLines, readLine_eq, readLine_eq, hxy]
    split
    · rfl
    · exact ih hrest.symm

/-- **Reading a source** that does not fail is reading the pieces between its line feeds. -/
theorem readSource_eq_read {s : Source} (hc : 0 < s.chunk) (he : s.ending = none) :
    readSource s = read ((s.rest.splitOn lineFeed).map textOf) := by
  have hmap : ((s.rest.splitOn lineFeed).map textOf).map entryOf =
      readings (s.rest.splitOn lineFeed) := List.map_map
  rw [readSource, read, read]
  rcases readings_splitOn hc he with h | h
  · rw [readLines_congr (hmap.trans h).symm]
  · have hblank : (s.texts ++ [Except.ok []]).map entryOf = s.texts.map entryOf ++ [.ok none] :=
      List.map_append
    rw [← readLines_congr (hblank.trans (hmap.trans h).symm), readLines_append]
    cases readLines 1 [] s.texts <;> rfl

/-! ### Rejection -/

/-- Where there is a bad line there is **a first one**. -/
theorem exists_isLeast_badAt (h : ∃ i, BadAt ls i) : ∃ i, IsLeast {i | BadAt ls i} i := by
  obtain ⟨i, hi, hmin⟩ := WellFounded.has_min Nat.lt_wfRel.wf {i | BadAt ls i} h
  exact ⟨i, hi, fun j hj => Nat.le_of_not_lt (hmin j hj)⟩

end RayTally.Import
