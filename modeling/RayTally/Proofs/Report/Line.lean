import RayTally.Proofs.Stream.Lines
import RayTally.Proofs.Text.Field
import RayTally.Report.Import

/-!
# Lines of an export

`Import.readEntry` takes a line apart step by step. This module gives the grammar that it accepts: a
line is skipped if it is blank or a comment, and it defines a counter if it is a name, a comma and a
numeral, with blanks around any of them. The grammar speaks of the bytes of a line as they stand
between two line feeds, so it also says which of them must be UTF-8: all.

## Main results

* `Import.readEntry_eq_none_iff` / `Import.readEntry_eq_some_iff`: what is skipped and what is read
  as an entry.
* `Import.entryOf_textOf_eq_none_iff` / `Import.entryOf_textOf_eq_some_iff`: the same for bytes.
* `Import.entryOf_textOfLine`: the carriage return of a line end makes no difference.
* `Import.readEntry_pad` / `Import.pad_comma`: neither does padding, around a line or around its
  comma.
-/

namespace RayTally.Import

open Text

/-! ### The grammar of a line -/

/-- A text that is **skipped**: without the blanks around it, it is empty or starts with `#`. -/
def Skips (cs : List Char) : Prop :=
  ∃ m, TrimsTo cs m ∧ (m = [] ∨ m.head? = some '#')

/-- A text that **defines a counter**: without the blanks around it, it has a comma. What stands
before the first one is the counter's name and what stands behind it a numeral of the value, with
blanks around either. -/
def Defines (cs : List Char) (c : Counter) (n : UInt64) : Prop :=
  ∃ m, TrimsTo cs m ∧ ∃ name value, m = name ++ ',' :: value ∧ ',' ∉ name ∧
    TrimsTo name c.name.toList ∧ ∃ numeral, TrimsTo value numeral ∧ Decimal.Denotes numeral n.toNat

/-- Bytes that are skipped: they are UTF-8, and their text is skipped. -/
def SkipsLine (l : Bytes) : Prop := ∃ cs, Utf8.encode cs = l ∧ Skips cs

/-- Bytes that define a counter: they are UTF-8, and their text does. -/
def DefinesLine (l : Bytes) (c : Counter) (n : UInt64) : Prop :=
  ∃ cs, Utf8.encode cs = l ∧ Defines cs c n

/-! ### What is read -/

/-- Exactly the export name of a counter is read as that counter. -/
theorem ofName?_ofList_eq_some_iff {cs : List Char} {c : Counter} :
    Counter.ofName? (String.ofList cs) = some c ↔ cs = c.name.toList := by
  rw [Counter.ofName?_eq_some_iff]
  constructor
  · intro h
    rw [← h, String.toList_ofList]
  · rintro rfl
    rw [String.ofList_toList]

/-- No name starts with the mark of a comment, and none is empty. -/
theorem head?_name (c : Counter) : ∃ d, c.name.toList.head? = some d ∧ d ≠ '#' := by
  cases c <;> exact ⟨_, rfl, by decide⟩

/-- The text before the first comma of an entry starts as the name does, or with a blank. -/
theorem head?_of_trimsTo {c : Counter} {name : List Char} (h : TrimsTo name c.name.toList) :
    ∃ d, name.head? = some d ∧ d ≠ '#' := by
  obtain ⟨before, after, rfl, hb, -, -, -⟩ := h
  cases before with
  | nil =>
    obtain ⟨d, hd, hne⟩ := head?_name c
    exact ⟨d, by rw [List.nil_append, List.head?_append, hd, Option.some_or], hne⟩
  | cons b before =>
    refine ⟨b, rfl, ?_⟩
    rintro rfl
    exact absurd (hb '#' List.mem_cons_self) (by decide)

/-- **What is skipped**: blank texts and comments. -/
theorem readEntry_eq_none_iff {cs : List Char} : readEntry cs = .ok none ↔ Skips cs := by
  rw [readEntry]
  constructor
  · intro h
    refine ⟨trim cs, trimsTo_trim cs, ?_⟩
    split at h
    · rename_i hm
      exact .inl hm
    · rename_i hm
      rw [hm]
      exact .inr rfl
    · split at h
      · cases h
      split at h
      · cases h
      split at h <;> cases h
  · rintro ⟨m, hm, hskip⟩
    rw [trim_of_trimsTo hm]
    rcases hskip with rfl | hhead
    · rfl
    · cases m with
      | nil => cases hhead
      | cons d m =>
        cases hhead
        rfl

/-- **What is read as an entry**: a name, the first comma and a numeral. -/
theorem readEntry_eq_some_iff {cs : List Char} {c : Counter} {n : UInt64} :
    readEntry cs = .ok (some (c, n)) ↔ Defines cs c n := by
  rw [readEntry]
  constructor
  · intro h
    split at h
    · cases h
    · cases h
    split at h
    · cases h
    rename_i name value hsplit
    split at h
    · cases h
    rename_i d hname
    split at h
    · cases h
    rename_i k hvalue
    cases h
    obtain ⟨hm, hcomma⟩ := splitAtFirst_eq_some_iff.mp hsplit
    exact ⟨_, trimsTo_trim cs, name, value, hm, hcomma,
      trim_eq_iff.mp (ofName?_ofList_eq_some_iff.mp hname), _, trimsTo_trim value,
      Decimal.readUInt64_eq_ok_iff.mp hvalue⟩
  · rintro ⟨m, hm, name, value, rfl, hcomma, hname, numeral, hvalue, hden⟩
    obtain ⟨d, hd, hne⟩ := head?_of_trimsTo hname
    rw [trim_of_trimsTo hm]
    split
    · rename_i heq
      exact absurd heq (by simp)
    · rename_i heq
      have hhash : (name ++ ',' :: value).head? = some '#' := by rw [heq]; rfl
      rw [List.head?_append, hd, Option.some_or, Option.some.injEq] at hhash
      exact absurd hhash hne
    · rw [splitAtFirst_eq_some_iff.mpr ⟨rfl, hcomma⟩]
      simp only [ofName?_ofList_eq_some_iff.mpr (trim_of_trimsTo hname), trim_of_trimsTo hvalue,
        Decimal.readUInt64_eq_ok_iff.mpr hden]

/-! ### Lines of a source -/

/-- What a line of a source says: nothing, an entry, or why it cannot be read. -/
abbrev Reading := Except LineError (Option (Counter × UInt64))

/-- The reading of a line. -/
def entryOf : Except Failure (List Char) → Reading
  | .error why => .error (.unreadable why)
  | .ok cs => readEntry cs

/-- **Bytes that are skipped.** -/
theorem entryOf_textOf_eq_none_iff {l : Bytes} :
    entryOf (LineReader.textOf l) = .ok none ↔ SkipsLine l := by
  constructor
  · intro h
    cases ht : LineReader.textOf l with
    | error why =>
      rw [ht] at h
      cases h
    | ok cs =>
      rw [ht] at h
      exact ⟨cs, LineReader.textOf_eq_ok_iff.mp ht, readEntry_eq_none_iff.mp h⟩
  · rintro ⟨cs, hcs, hskip⟩
    rw [LineReader.textOf_eq_ok_iff.mpr hcs]
    exact readEntry_eq_none_iff.mpr hskip

/-- **Bytes that are read as an entry.** -/
theorem entryOf_textOf_eq_some_iff {l : Bytes} {c : Counter} {n : UInt64} :
    entryOf (LineReader.textOf l) = .ok (some (c, n)) ↔ DefinesLine l c n := by
  constructor
  · intro h
    cases ht : LineReader.textOf l with
    | error why =>
      rw [ht] at h
      cases h
    | ok cs =>
      rw [ht] at h
      exact ⟨cs, LineReader.textOf_eq_ok_iff.mp ht, readEntry_eq_some_iff.mp h⟩
  · rintro ⟨cs, hcs, hdef⟩
    rw [LineReader.textOf_eq_ok_iff.mpr hcs]
    exact readEntry_eq_some_iff.mpr hdef

/-- Nothing between two line feeds is a blank line. -/
theorem entryOf_textOf_nil : entryOf (LineReader.textOf []) = .ok none :=
  entryOf_textOf_eq_none_iff.mpr ⟨[], rfl, [], trimsTo_trim [], .inl rfl⟩

/-- What is read depends on a text only through what trimming leaves of it. -/
theorem readEntry_congr {cs ds : List Char} (h : trim cs = trim ds) :
    readEntry cs = readEntry ds := by
  rw [readEntry, readEntry, h]

/-- A **carriage return** before the line feed makes no difference, so nor do line ends. -/
theorem entryOf_textOfLine (l : Bytes) :
    entryOf (LineReader.textOfLine (l ++ [LineReader.lineFeed])) =
      entryOf (LineReader.textOf l) := by
  rcases LineReader.textOfLine_append_lineFeed l with h | h
  · rw [h]
  · rw [h]
    cases LineReader.textOfLine (l ++ [LineReader.lineFeed]) with
    | error why => rfl
    | ok cs =>
      refine readEntry_congr (trim_append_blank (fun c hc => ?_) cs).symm
      rw [List.mem_singleton.mp hc]
      rfl

/-- A carriage return **between two line feeds**, at the end, makes no difference either. -/
theorem entryOf_textOf_append_carriageReturn (l : Bytes) :
    entryOf (LineReader.textOf (l ++ [13])) = entryOf (LineReader.textOf l) := by
  rw [LineReader.textOf, LineReader.textOf, Utf8.decode_append_ascii (by decide)]
  cases Utf8.decode l with
  | none => rfl
  | some cs =>
    refine readEntry_congr (trim_append_blank (fun c hc => ?_) cs)
    rw [List.mem_singleton.mp hc]
    rfl

/-! ### Padding -/

/-- The parts of an entry do not depend on how much of the line is trimmed before it is split. -/
theorem defines_around_iff {name value : List Char} {c : Counter} {n : UInt64}
    (hname : ',' ∉ name) :
    Defines (name ++ ',' :: value) c n ↔
      trim name = c.name.toList ∧ Decimal.Denotes (trim value) n.toNat := by
  have htrim := trim_around (show isBlank ',' = false by decide) name value
  have hleft : ',' ∉ trimLeft name := fun h => hname ((List.dropWhile_sublist _).subset h)
  constructor
  · rintro ⟨m, hm, name', value', rfl, hcomma, hn, numeral, hv, hden⟩
    rw [← trim_eq_iff, htrim] at hm
    have hsplit := splitAtFirst_eq_some_iff.mpr ⟨hm, hcomma⟩
    rw [splitAtFirst_eq_some_iff.mpr ⟨rfl, hleft⟩] at hsplit
    cases hsplit
    rw [← trim_eq_iff, trim_trimLeft] at hn
    rw [← trim_eq_iff, trim_trimRight] at hv
    exact ⟨hn, hv ▸ hden⟩
  · rintro ⟨hn, hden⟩
    refine ⟨_, trim_eq_iff.mp htrim, _, _, rfl, hleft, ?_, _, trimsTo_trim _, ?_⟩
    · rw [← trim_eq_iff, trim_trimLeft, hn]
    · rw [trim_trimRight]
      exact hden

/-- A text with a comma is skipped exactly if what stands before the comma starts with `#`. -/
theorem skips_around_iff {name value : List Char} :
    Skips (name ++ ',' :: value) ↔ (trimLeft name).head? = some '#' := by
  have htrim := trim_around (show isBlank ',' = false by decide) name value
  have hhead : (trimLeft name ++ ',' :: trimRight value).head? = some '#' ↔
      (trimLeft name).head? = some '#' := by
    cases trimLeft name with
    | nil => simp
    | cons d ds => simp
  constructor
  · rintro ⟨m, hm, hskip⟩
    rw [← trim_eq_iff, htrim] at hm
    subst hm
    rcases hskip with hnil | hskip
    · exact absurd hnil (by simp)
    · exact hhead.mp hskip
  · intro h
    exact ⟨_, trim_eq_iff.mp htrim, .inr (hhead.mpr h)⟩

/-- **Padding a line** changes nothing, and a carriage return at its end is padding. -/
theorem readEntry_pad {before after : List Char} (hb : ∀ c ∈ before, isBlank c = true)
    (ha : ∀ c ∈ after, isBlank c = true) (cs : List Char) :
    readEntry (before ++ cs ++ after) = readEntry cs := by
  refine readEntry_congr ?_
  rw [trim_append_blank ha, trim_prepend_blank hb]

/-- **Padding the comma** of a line changes neither whether it is skipped nor what it defines. -/
theorem pad_comma {name value after before : List Char} (hname : ',' ∉ name)
    (ha : ∀ c ∈ after, isBlank c = true) (hb : ∀ c ∈ before, isBlank c = true) :
    (Skips (name ++ after ++ ',' :: (before ++ value)) ↔ Skips (name ++ ',' :: value)) ∧
      ∀ c n, Defines (name ++ after ++ ',' :: (before ++ value)) c n ↔
        Defines (name ++ ',' :: value) c n := by
  have hcomma : ',' ∉ name ++ after := by
    intro h
    rcases List.mem_append.mp h with h | h
    · exact hname h
    · exact absurd (ha ',' h) (by decide)
  constructor
  · rw [skips_around_iff, skips_around_iff]
    by_cases hall : ∀ c ∈ name, isBlank c = true
    · have hnil : trimLeft (after ++ []) = trimLeft [] := trimLeft_append_blank ha []
      have hnil' : trimLeft (name ++ []) = trimLeft [] := trimLeft_append_blank hall []
      rw [List.append_nil] at hnil hnil'
      rw [trimLeft_append_blank hall, hnil, hnil']
    · rw [trimLeft_append hall]
      cases hl : trimLeft name with
      | nil => exact absurd (List.dropWhile_eq_nil_iff.mp hl) hall
      | cons d ds => rfl
  · intro c n
    rw [defines_around_iff hname, defines_around_iff hcomma, trim_append_blank ha,
      trim_prepend_blank hb]

end RayTally.Import
