import Mathlib.Data.List.Nodup
import Mathlib.Data.List.Perm.Basic
import RayTally.Proofs.Report.Line

/-!
# What is an export

`Import.readSource` goes through a source line by line and keeps the entries it found. It gives a
tally exactly if each line is skipped or defines a counter and each counter is defined by exactly
one line, and then the tally has the values of these lines. So the order of lines does not matter,
and neither does anything that is skipped or trimmed.

## Main results

* `Import.readLines_eq_ok_iff`: the loop keeps the entries of all lines, each counter once.
* `Import.read_eq_ok_iff`: the same for all lines, with every counter found.
* `Import.readSource_iff_isExport`: reading a source that does not fail.
* `Import.Restyled.isExport_iff`: changes of style neither make an export nor break one.
* `Import.readSource_eq_ok_iff`: both together, for every chunk size.
-/

namespace RayTally.Import

open LineReader (lineFeed textOf)

/-! ### Entries found -/

/-- The entries among readings, in order. -/
def entriesOf (rs : List Reading) : Found := rs.filterMap fun r => r.toOption.join

/-- A counter was found if one of the entries is for it. -/
theorem isSome_lookup_iff {found : Found} {c : Counter} :
    (found.lookup c).isSome = true ↔ c ∈ found.map Prod.fst := by
  rw [List.lookup_isSome_iff, List.mem_map]
  constructor
  · rintro ⟨e, he, hce⟩
    exact ⟨e, he, (beq_iff_eq.mp hce).symm⟩
  · rintro ⟨e, he, rfl⟩
    exact ⟨e, he, beq_self_eq_true _⟩

/-- What was found for a counter is its entry, as long as it has only one. -/
theorem lookup_eq_some_iff_mem {found : Found} (hn : (found.map Prod.fst).Nodup) {c : Counter}
    {n : UInt64} : found.lookup c = some n ↔ (c, n) ∈ found := by
  induction found with
  | nil => simp
  | cons e found ih =>
    obtain ⟨d, m⟩ := e
    rw [List.map_cons, List.nodup_cons] at hn
    rw [List.lookup_cons, List.mem_cons]
    by_cases hcd : c = d
    · subst hcd
      have hnot : (c, n) ∉ found := fun h => hn.1 (List.mem_map.mpr ⟨_, h, rfl⟩)
      simp [hnot, eq_comm]
    · simp [beq_eq_false_iff_ne.mpr hcd, hcd, ih hn.2]

/-! ### The loop -/

/-- A line counts only for what it says. -/
theorem readLine_eq (found : Found) (line : Except Failure (List Char)) :
    readLine found line =
      match entryOf line with
      | .error why => .error why
      | .ok none => .ok found
      | .ok (some (c, n)) =>
        if (found.lookup c).isSome then .error (.duplicate c) else .ok ((c, n) :: found) := by
  cases line <;> rfl

/-- **A line** is read if its entry, should it have one, is the first for its counter. -/
theorem readLine_eq_ok_iff {found found' : Found} {line : Except Failure (List Char)}
    (hn : (found.map Prod.fst).Nodup) :
    readLine found line = .ok found' ↔
      ∃ e, entryOf line = .ok e ∧ found' = e.toList ++ found ∧ (found'.map Prod.fst).Nodup := by
  rw [readLine_eq]
  cases entryOf line with
  | error why => simp
  | ok e =>
    cases e with
    | none =>
      constructor
      · intro h
        cases h
        exact ⟨none, rfl, rfl, hn⟩
      · rintro ⟨e, he, rfl, -⟩
        cases he
        rfl
    | some e =>
      obtain ⟨c, n⟩ := e
      simp only
      split
      · rename_i hdup
        constructor
        · intro h
          cases h
        · rintro ⟨e, he, rfl, hnodup⟩
          cases he
          exact absurd (isSome_lookup_iff.mp hdup) (List.nodup_cons.mp hnodup).1
      · rename_i hnew
        constructor
        · intro h
          cases h
          exact ⟨_, rfl, rfl, List.nodup_cons.mpr ⟨fun h => hnew (isSome_lookup_iff.mpr h), hn⟩⟩
        · rintro ⟨e, he, rfl, -⟩
          cases he
          rfl

/-- The entry of the first reading comes first, so it is kept behind the others. -/
theorem reverse_entriesOf_cons (e : Option (Counter × UInt64)) (rs : List Reading) :
    (entriesOf (.ok e :: rs)).reverse = (entriesOf rs).reverse ++ e.toList := by
  cases e with
  | none => exact (List.append_nil _).symm
  | some e => exact List.reverse_cons

/-- **The loop** gets through all lines exactly if each can be read and no counter comes twice, and
then it has kept every entry. What was found before has no counter twice; each entry that is kept
preserves that, and the first one that would not ends the loop. -/
theorem readLines_eq_ok_iff {n : Nat} {found found' : Found}
    {lines : List (Except Failure (List Char))} (hn : (found.map Prod.fst).Nodup) :
    readLines n found lines = .ok found' ↔
      (∀ line ∈ lines, ∃ e, entryOf line = .ok e) ∧
        found' = (entriesOf (lines.map entryOf)).reverse ++ found ∧
          (found'.map Prod.fst).Nodup := by
  induction lines generalizing n found with
  | nil =>
    rw [readLines]
    constructor
    · intro h
      cases h
      exact ⟨fun line hline => absurd hline List.not_mem_nil, rfl, hn⟩
    · rintro ⟨-, rfl, -⟩
      rfl
  | cons line lines ih =>
    rw [readLines, List.forall_mem_cons, List.map_cons]
    constructor
    · intro h
      split at h
      · cases h
      · rename_i mid hmid
        obtain ⟨e, he, rfl, hmidn⟩ := (readLine_eq_ok_iff hn).mp hmid
        obtain ⟨hread, hfound, hnodup⟩ := (ih hmidn).mp h
        refine ⟨⟨⟨e, he⟩, hread⟩, ?_, hnodup⟩
        rw [hfound, he, reverse_entriesOf_cons, List.append_assoc]
    · rintro ⟨⟨⟨e, he⟩, hread⟩, hfound, hnodup⟩
      rw [he, reverse_entriesOf_cons, List.append_assoc] at hfound
      have hmidn : ((e.toList ++ found).map Prod.fst).Nodup := by
        rw [hfound, List.map_append] at hnodup
        exact hnodup.of_append_right
      rw [(readLine_eq_ok_iff hn).mpr ⟨e, he, rfl, hmidn⟩]
      exact (ih hmidn).mpr ⟨hread, hfound, hnodup⟩

/-- Nothing is missing if every counter was found. -/
theorem missing_eq_nil_iff {found : Found} :
    missing found = [] ↔ ∀ c, c ∈ found.map Prod.fst := by
  rw [missing, List.filter_eq_nil_iff]
  constructor
  · intro h c
    have hc := h c (Counter.mem_all c)
    rw [Option.isNone_iff_eq_none, ← ne_eq, Option.ne_none_iff_isSome] at hc
    exact isSome_lookup_iff.mp hc
  · intro h c _ hnone
    rw [Option.isNone_iff_eq_none] at hnone
    have hc := isSome_lookup_iff.mpr (h c)
    rw [hnone] at hc
    cases hc

/-- Readings that **define a tally**: all can be read, no counter comes twice, and each comes with
its value. -/
structure DefineTally (rs : List Reading) (t : Tally) : Prop where
  readable : ∀ r ∈ rs, ∃ e, r = .ok e
  nodup : ((entriesOf rs).map Prod.fst).Nodup
  mem : ∀ c, (c, t.get c) ∈ entriesOf rs

/-- **Reading lines** gives a tally exactly if they define it. -/
theorem read_eq_ok_iff {lines : List (Except Failure (List Char))} {t : Tally} :
    read lines = .ok t ↔ DefineTally (lines.map entryOf) t := by
  have hnil : (([] : Found).map Prod.fst).Nodup := List.nodup_nil
  rw [read]
  constructor
  · intro h
    split at h
    · cases h
    rename_i found hfound
    obtain ⟨hread, rfl, hnodup⟩ := (readLines_eq_ok_iff hnil).mp hfound
    split at h
    · rename_i hmissing
      cases h
      rw [List.append_nil] at hmissing hnodup
      have hnodup' := hnodup
      rw [List.map_reverse, List.nodup_reverse] at hnodup'
      refine ⟨?_, hnodup', fun c => ?_⟩
      · simpa only [List.forall_mem_map] using hread
      · obtain ⟨n, hn⟩ := Option.isSome_iff_exists.mp
          (isSome_lookup_iff.mpr (missing_eq_nil_iff.mp hmissing c))
        rw [Found.tally, Tally.get_ofFn, List.append_nil, hn, Option.getD_some,
          ← List.mem_reverse]
        exact (lookup_eq_some_iff_mem hnodup).mp hn
    · cases h
  · rintro ⟨hread, hnodup, hmem⟩
    have hnodup' : ((entriesOf (lines.map entryOf)).reverse.map Prod.fst).Nodup := by
      rw [List.map_reverse, List.nodup_reverse]
      exact hnodup
    have hfound : readLines 1 [] lines = .ok (entriesOf (lines.map entryOf)).reverse := by
      refine (readLines_eq_ok_iff hnil).mpr ⟨?_, by rw [List.append_nil], hnodup'⟩
      simpa only [List.forall_mem_map] using hread
    have hmissing : missing (entriesOf (lines.map entryOf)).reverse = [] := by
      refine missing_eq_nil_iff.mpr fun c => List.mem_map_of_mem (List.mem_reverse.mpr (hmem c))
    simp only [hfound, hmissing, Except.ok.injEq]
    refine Tally.ext_get fun c => ?_
    rw [Found.tally, Tally.get_ofFn,
      (lookup_eq_some_iff_mem hnodup').mpr (List.mem_reverse.mpr (hmem c)), Option.getD_some]

/-! ### Lines of bytes -/

/-- What lines of bytes say. -/
def readings (ls : List Bytes) : List Reading := ls.map fun l => entryOf (textOf l)

/-- **The lines of an export**: each is skipped or defines a counter, and each counter is defined by
exactly one of them, with its value. -/
structure IsExport (ls : List Bytes) (t : Tally) : Prop where
  line : ∀ l ∈ ls, SkipsLine l ∨ ∃ c n, DefinesLine l c n
  once : ∀ c, ∃! i : Nat, ∃ l n, ls[i]? = some l ∧ DefinesLine l c n
  value : ∀ l ∈ ls, ∀ c n, DefinesLine l c n → n = t.get c

/-- The entry of a line is what the line defines. -/
theorem toOption_join_eq_some_iff {l : Bytes} {c : Counter} {n : UInt64} :
    (entryOf (textOf l)).toOption.join = some (c, n) ↔ DefinesLine l c n := by
  rw [← entryOf_textOf_eq_some_iff]
  cases entryOf (textOf l) <;> simp [Except.toOption]

/-- The entries are what the lines define. -/
theorem mem_entriesOf_readings {ls : List Bytes} {c : Counter} {n : UInt64} :
    (c, n) ∈ entriesOf (readings ls) ↔ ∃ l ∈ ls, DefinesLine l c n := by
  rw [entriesOf, readings, List.mem_filterMap]
  simp only [List.mem_map, exists_exists_and_eq_and, toOption_join_eq_some_iff]

/-- A line can be read if it is skipped or defines a counter. -/
theorem exists_entryOf_eq_ok_iff {l : Bytes} :
    (∃ e, entryOf (textOf l) = .ok e) ↔ SkipsLine l ∨ ∃ c n, DefinesLine l c n := by
  constructor
  · rintro ⟨e, he⟩
    cases e with
    | none => exact .inl (entryOf_textOf_eq_none_iff.mp he)
    | some e => exact .inr ⟨e.1, e.2, entryOf_textOf_eq_some_iff.mp he⟩
  · rintro (h | ⟨c, n, h⟩)
    · exact ⟨none, entryOf_textOf_eq_none_iff.mpr h⟩
    · exact ⟨some (c, n), entryOf_textOf_eq_some_iff.mpr h⟩

/-- No counter comes twice if two lines for one counter stand at the same place. -/
theorem nodup_entriesOf_readings_iff {ls : List Bytes} :
    ((entriesOf (readings ls)).map Prod.fst).Nodup ↔
      ∀ (i j : Nat) l m c n k, ls[i]? = some l → ls[j]? = some m → DefinesLine l c n →
        DefinesLine m c k →
        i = j := by
  rw [List.Nodup, List.pairwise_map, entriesOf, List.pairwise_filterMap, readings,
    List.pairwise_map, List.pairwise_iff_getElem]
  constructor
  · intro h i j l m c n k hi hj hl hm
    obtain ⟨hilt, rfl⟩ := List.getElem?_eq_some_iff.mp hi
    obtain ⟨hjlt, rfl⟩ := List.getElem?_eq_some_iff.mp hj
    rw [← toOption_join_eq_some_iff] at hl hm
    rcases Nat.lt_trichotomy i j with hij | hij | hij
    · exact absurd rfl (h i j hilt hjlt hij (c, n) hl (c, k) hm)
    · exact hij
    · exact absurd rfl (h j i hjlt hilt hij (c, k) hm (c, n) hl)
  · rintro h i j hi hj hij ⟨c, n⟩ hl ⟨d, k⟩ hm hcd
    obtain rfl : c = d := hcd
    rw [toOption_join_eq_some_iff] at hl hm
    have := h i j _ _ c n k (List.getElem?_eq_getElem hi) (List.getElem?_eq_getElem hj) hl hm
    omega

/-- **An export** is what defines a tally. -/
theorem isExport_iff {ls : List Bytes} {t : Tally} :
    IsExport ls t ↔ DefineTally (readings ls) t := by
  have hreadable : (∀ r ∈ readings ls, ∃ e, r = .ok e) ↔
      ∀ l ∈ ls, SkipsLine l ∨ ∃ c n, DefinesLine l c n := by
    simp only [readings, List.forall_mem_map, exists_entryOf_eq_ok_iff]
  constructor
  · rintro ⟨hline, honce, hvalue⟩
    refine ⟨hreadable.mpr hline, nodup_entriesOf_readings_iff.mpr ?_, fun c => ?_⟩
    · intro i j l m c n k hi hj hl hm
      exact (honce c).unique ⟨l, n, hi, hl⟩ ⟨m, k, hj, hm⟩
    · obtain ⟨i, l, n, hi, hl⟩ := (honce c).exists
      have hmem := List.mem_of_getElem? hi
      rw [mem_entriesOf_readings]
      exact ⟨l, hmem, hvalue l hmem c n hl ▸ hl⟩
  · rintro ⟨hread, hnodup, hmem⟩
    have honce := nodup_entriesOf_readings_iff.mp hnodup
    refine ⟨hreadable.mp hread, fun c => ?_, fun l hl c n hdef => ?_⟩
    · obtain ⟨l, hl, hdef⟩ := mem_entriesOf_readings.mp (hmem c)
      obtain ⟨i, hi⟩ := List.mem_iff_getElem?.mp hl
      refine ⟨i, ⟨l, _, hi, hdef⟩, ?_⟩
      rintro j ⟨m, k, hj, hm⟩
      exact honce j i m l c k _ hj hi hm hdef
    · have hpair := List.inj_on_of_nodup_map hnodup (mem_entriesOf_readings.mpr ⟨l, hl, hdef⟩)
        (hmem c) rfl
      exact (Prod.mk.inj hpair).2

/-! ### Sources -/

/-- The lines of a source say what the pieces between its line feeds say. A last piece without
bytes is no line, but it would be a blank one. -/
theorem readings_splitOn {s : Source} (hc : 0 < s.chunk) (he : s.ending = none) :
    readings (s.rest.splitOn lineFeed) = s.texts.map entryOf ∨
      readings (s.rest.splitOn lineFeed) = s.texts.map entryOf ++ [.ok none] := by
  obtain ⟨before, last, hsplit⟩ :=
    (s.rest.splitOn lineFeed).eq_nil_or_concat'.resolve_left (List.splitOn_ne_nil _ _)
  have htexts := Source.texts_eq hc (Source.available_of_ending he ▸ hsplit)
  have hbefore : (before.map fun l => LineReader.textOfLine (l ++ [lineFeed])).map entryOf =
      readings before := by
    simp only [readings, List.map_map, Function.comp_def, entryOf_textOfLine]
  have hpieces : readings (before ++ [last]) = readings before ++ [entryOf (textOf last)] :=
    List.map_append
  rw [hsplit, htexts, he, List.map_append, hbefore, hpieces, LineReader.lastLine]
  by_cases hlast : last = []
  · right
    rw [if_pos hlast, hlast, entryOf_textOf_nil]
    simp
  · left
    have hno : lineFeed ∉ last := LineReader.lineFeed_notMem (hsplit ▸ List.mem_concat_self)
    rw [if_neg hlast, ← LineReader.textOfLine_of_not_mem hno]
    rfl

/-- The order of lines does not matter. -/
theorem defineTally_of_perm {rs rs' : List Reading} {t : Tally} (hp : rs.Perm rs')
    (h : DefineTally rs t) : DefineTally rs' t := by
  have hentries : (entriesOf rs).Perm (entriesOf rs') := hp.filterMap _
  exact ⟨fun r hr => h.readable r (hp.mem_iff.mpr hr),
    (hentries.map Prod.fst).nodup_iff.mp h.nodup, fun c => hentries.mem_iff.mp (h.mem c)⟩

/-- A line that is skipped does not matter. -/
theorem defineTally_cons_none {rs : List Reading} {t : Tally} :
    DefineTally (.ok none :: rs) t ↔ DefineTally rs t := by
  constructor
  · rintro ⟨hread, hnodup, hmem⟩
    exact ⟨fun r hr => hread r (List.mem_cons_of_mem _ hr), hnodup, hmem⟩
  · rintro ⟨hread, hnodup, hmem⟩
    exact ⟨List.forall_mem_cons.mpr ⟨⟨none, rfl⟩, hread⟩, hnodup, hmem⟩

/-- **Reading a source** that does not fail. -/
theorem readSource_iff_isExport {s : Source} (hc : 0 < s.chunk) (he : s.ending = none)
    {t : Tally} : readSource s = .ok t ↔ IsExport (s.rest.splitOn lineFeed) t := by
  rw [readSource, read_eq_ok_iff, isExport_iff]
  rcases readings_splitOn hc he with h | h
  · rw [h]
  · have hperm := List.perm_append_singleton (.ok none) (s.texts.map entryOf)
    rw [h, ← defineTally_cons_none]
    exact ⟨defineTally_of_perm hperm.symm, defineTally_of_perm hperm⟩

/-! ### Style -/

/-- **Changes of style** of the lines of an export: lines in another order, lines more that are
skipped, carriage returns before the line feeds, and blanks around a line or around its first
comma. Each may be made and unmade any number of times. -/
inductive Restyled : List Bytes → List Bytes → Prop
  | reorder {ls ms : List Bytes} (h : ls.Perm ms) : Restyled ls ms
  | skipped {l : Bytes} (h : SkipsLine l) (ls : List Bytes) : Restyled ls (l :: ls)
  | carriageReturn (l : Bytes) (ls : List Bytes) : Restyled (l :: ls) ((l ++ [13]) :: ls)
  | padded {before cs after : List Char} (hb : ∀ c ∈ before, Text.isBlank c = true)
      (ha : ∀ c ∈ after, Text.isBlank c = true) (ls : List Bytes) :
      Restyled (Utf8.encode cs :: ls) (Utf8.encode (before ++ cs ++ after) :: ls)
  | paddedComma {name before after value : List Char} (hname : ',' ∉ name)
      (hb : ∀ c ∈ before, Text.isBlank c = true) (ha : ∀ c ∈ after, Text.isBlank c = true)
      (ls : List Bytes) :
      Restyled (Utf8.encode (name ++ ',' :: value) :: ls)
        (Utf8.encode (name ++ before ++ ',' :: (after ++ value)) :: ls)
  | symm {ls ms : List Bytes} (h : Restyled ls ms) : Restyled ms ls
  | trans {ls ms ns : List Bytes} (h : Restyled ls ms) (h' : Restyled ms ns) : Restyled ls ns

/-- Why a line cannot be read does not matter. -/
theorem defineTally_cons_congr {r r' : Reading} {rs : List Reading} {t : Tally}
    (h : r.toOption = r'.toOption) (hd : DefineTally (r :: rs) t) : DefineTally (r' :: rs) t := by
  have hentries : entriesOf (r' :: rs) = entriesOf (r :: rs) := by
    rw [entriesOf, entriesOf, List.filterMap_cons, List.filterMap_cons, h]
  obtain ⟨hread, hnodup, hmem⟩ := hd
  have hread := List.forall_mem_cons.mp hread
  obtain ⟨e, rfl⟩ := hread.1
  rw [← hentries] at hnodup hmem
  cases r' with
  | error why => cases h
  | ok e' => exact ⟨List.forall_mem_cons.mpr ⟨⟨e', rfl⟩, hread.2⟩, hnodup, hmem⟩

/-- Two lines are the same to an export if the same is skipped and the same defined. -/
theorem toOption_entryOf_eq {l m : Bytes} (hskips : SkipsLine l ↔ SkipsLine m)
    (hdefines : ∀ c n, DefinesLine l c n ↔ DefinesLine m c n) :
    (entryOf (textOf l)).toOption = (entryOf (textOf m)).toOption := by
  have hok (r : Reading) (e : Option (Counter × UInt64)) : r.toOption = some e ↔ r = .ok e := by
    cases r <;> simp [Except.toOption]
  refine Option.ext fun e => ?_
  rw [hok, hok]
  cases e with
  | none => rw [entryOf_textOf_eq_none_iff, entryOf_textOf_eq_none_iff, hskips]
  | some e => rw [entryOf_textOf_eq_some_iff, entryOf_textOf_eq_some_iff, hdefines]

/-- What the bytes of a text are is what the text is. -/
theorem skipsLine_encode_iff {cs : List Char} : SkipsLine (Utf8.encode cs) ↔ Skips cs := by
  constructor
  · rintro ⟨ds, hds, h⟩
    exact Utf8.encode_injective hds ▸ h
  · exact fun h => ⟨cs, rfl, h⟩

/-- What the bytes of a text define is what the text defines. -/
theorem definesLine_encode_iff {cs : List Char} {c : Counter} {n : UInt64} :
    DefinesLine (Utf8.encode cs) c n ↔ Defines cs c n := by
  constructor
  · rintro ⟨ds, hds, h⟩
    exact Utf8.encode_injective hds ▸ h
  · exact fun h => ⟨cs, rfl, h⟩

/-- Padding a line keeps its reading. -/
theorem entryOf_encode_pad {before after : List Char}
    (hb : ∀ c ∈ before, Text.isBlank c = true) (ha : ∀ c ∈ after, Text.isBlank c = true)
    (cs : List Char) :
    entryOf (textOf (Utf8.encode (before ++ cs ++ after))) = entryOf (textOf (Utf8.encode cs)) := by
  rw [LineReader.textOf_eq_ok_iff.mpr rfl, LineReader.textOf_eq_ok_iff.mpr rfl]
  exact readEntry_pad hb ha cs

/-- Padding the comma of a line keeps what it says. -/
theorem toOption_encode_padComma {name before after value : List Char} (hname : ',' ∉ name)
    (hb : ∀ c ∈ before, Text.isBlank c = true) (ha : ∀ c ∈ after, Text.isBlank c = true) :
    (entryOf (textOf (Utf8.encode (name ++ before ++ ',' :: (after ++ value))))).toOption =
      (entryOf (textOf (Utf8.encode (name ++ ',' :: value)))).toOption := by
  refine toOption_entryOf_eq ?_ fun c n => ?_
  · rw [skipsLine_encode_iff, skipsLine_encode_iff, (pad_comma hname hb ha).1]
  · rw [definesLine_encode_iff, definesLine_encode_iff, (pad_comma hname hb ha).2]

/-- A line may be replaced by one that says the same. -/
theorem isExport_cons_congr {l m : Bytes} {ls : List Bytes} {t : Tally}
    (h : (entryOf (textOf l)).toOption = (entryOf (textOf m)).toOption) :
    IsExport (l :: ls) t ↔ IsExport (m :: ls) t := by
  rw [isExport_iff, isExport_iff]
  exact ⟨defineTally_cons_congr h, defineTally_cons_congr h.symm⟩

/-- **Style does not matter** to what an export is, nor to its tally. -/
theorem Restyled.isExport_iff {ls ms : List Bytes} {t : Tally} (h : Restyled ls ms) :
    IsExport ls t ↔ IsExport ms t := by
  induction h with
  | reorder hp =>
    rw [Import.isExport_iff, Import.isExport_iff]
    exact ⟨defineTally_of_perm (hp.map _), defineTally_of_perm (hp.map _).symm⟩
  | skipped hl ls =>
    rw [Import.isExport_iff, Import.isExport_iff, readings, readings, List.map_cons,
      entryOf_textOf_eq_none_iff.mpr hl, defineTally_cons_none]
  | carriageReturn l ls =>
    exact isExport_cons_congr (by rw [entryOf_textOf_append_carriageReturn])
  | padded hb ha ls => exact isExport_cons_congr (by rw [entryOf_encode_pad hb ha])
  | paddedComma hname hb ha ls =>
    exact isExport_cons_congr (toOption_encode_padComma hname hb ha).symm
  | symm _ ih => exact ih.symm
  | trans _ _ ih ih' => exact ih.trans ih'

/-! ### Acceptance -/

/-- **What is accepted**: a source that does not fail is read as a tally exactly if its lines are an
export of that tally. It may give its bytes in chunks of any size, and the style of its lines makes
no difference. -/
theorem readSource_eq_ok_iff {s : Source} (hc : 0 < s.chunk) (he : s.ending = none) (t : Tally) :
    (readSource s = .ok t ↔ IsExport (s.rest.splitOn lineFeed) t) ∧
      ∀ s' : Source, 0 < s'.chunk → s'.ending = none →
        Restyled (s.rest.splitOn lineFeed) (s'.rest.splitOn lineFeed) →
          (readSource s' = .ok t ↔ readSource s = .ok t) := by
  refine ⟨readSource_iff_isExport hc he, fun s' hc' he' hstyle => ?_⟩
  rw [readSource_iff_isExport hc he, readSource_iff_isExport hc' he', hstyle.isExport_iff]

/-- An export of zeros from the last counter to the first, with carriage returns and blanks, read
byte by byte and with an interruption. -/
theorem readSource_reversed_zero :
    readSource ⟨[lineFeed].intercalate
      (Counter.all.reverse.map fun c => Utf8.encode (c.name.toList ++ " , +00\r".toList)),
        0, 1, none, some 5⟩ = .ok .zero := by
  refine (readSource_eq_ok_iff (by decide) rfl .zero).1.mpr (isExport_iff.mpr ?_)
  rw [List.splitOn_intercalate _ (by decide) (by decide)]
  have hentry (c : Counter) :
      entryOf (textOf (Utf8.encode (c.name.toList ++ " , +00\r".toList))) = .ok (some (c, 0)) := by
    rw [LineReader.textOf_eq_ok_iff.mpr rfl]
    cases c <;> rfl
  simp only [readings, List.map_map, Function.comp_def, hentry]
  exact { readable := by simp
          nodup := by decide
          mem := by
            intro c
            cases c <;> decide }

end RayTally.Import
