import Mathlib.Algebra.Group.Nat.Defs
import Mathlib.Data.List.Basic
import Mathlib.Data.List.TakeWhile
import RayTally.Text.Blank
import RayTally.Text.Decimal

/-!
# Fields of a line

A line is taken apart by three functions: one trims, one splits at the first separator, and one
reads a numeral. Each of them scans its text from one end. This module says what each finds without
saying how it scans: `TrimsTo` is about the blanks around a text, a split is about the first
occurrence of the separator, and `Denotes` is about the digits of a numeral and their value.

## Main results

* `Text.trim_eq_iff`: trimming gives the one text that is left when blanks are taken from both ends.
* `Text.splitAtFirst_eq_some_iff`: a split is made where the separator occurs first.
* `Decimal.readUInt64_eq_ok_iff`: exactly the numerals of 64-bit numbers are read, with any number
  of leading zeros.
* `Decimal.denotes_digits`: the numeral that is written for a number denotes it.
* `Decimal.exists_of_prefix_digits`: cutting off digits is dividing by a power of ten.
-/

namespace RayTally

namespace Text

/-! ### Trimming -/

/-- **What is left of a text without the blanks around it**: `cs` is `m` between blanks, and `m`
neither starts nor ends with one. -/
def TrimsTo (cs m : List Char) : Prop :=
  ∃ before after, cs = before ++ m ++ after ∧
    (∀ c ∈ before, isBlank c = true) ∧ (∀ c ∈ after, isBlank c = true) ∧
    (∀ c, m.head? = some c → isBlank c = false) ∧ (∀ c, m.getLast? = some c → isBlank c = false)

/-- Blanks in front do not count. -/
theorem trimLeft_append_blank {as : List Char} (h : ∀ c ∈ as, isBlank c = true) (cs : List Char) :
    trimLeft (as ++ cs) = trimLeft cs := by
  rw [trimLeft, trimLeft, List.dropWhile_append_of_pos h]

/-- Blanks behind do not count. -/
theorem trimRight_append_blank {bs : List Char} (h : ∀ c ∈ bs, isBlank c = true)
    (cs : List Char) : trimRight (cs ++ bs) = trimRight cs := by
  rw [trimRight, trimRight, List.reverse_append, List.dropWhile_append_of_pos]
  exact fun c hc => h c (List.mem_reverse.mp hc)

/-- Blanks alone leave nothing. -/
theorem trim_blank {cs : List Char} (h : ∀ c ∈ cs, isBlank c = true) : trim cs = [] := by
  rw [trim, ← List.append_nil cs, trimLeft_append_blank h]
  rfl

/-- Blanks behind a text are kept or dropped from the left with nothing else. -/
theorem trimLeft_append {cs bs : List Char} (h : ¬∀ c ∈ cs, isBlank c = true) :
    trimLeft (cs ++ bs) = trimLeft cs ++ bs := by
  have hne : (cs.dropWhile isBlank).isEmpty = false := by
    rw [List.isEmpty_eq_false_iff, ne_eq, List.dropWhile_eq_nil_iff]
    exact h
  rw [trimLeft, trimLeft, List.dropWhile_append, hne, if_neg Bool.false_ne_true]

/-- **Padding** in front does not count. -/
theorem trim_prepend_blank {as : List Char} (h : ∀ c ∈ as, isBlank c = true) (cs : List Char) :
    trim (as ++ cs) = trim cs := by
  rw [trim, trim, trimLeft_append_blank h]

/-- **Padding** behind does not count. -/
theorem trim_append_blank {bs : List Char} (h : ∀ c ∈ bs, isBlank c = true) (cs : List Char) :
    trim (cs ++ bs) = trim cs := by
  by_cases hcs : ∀ c ∈ cs, isBlank c = true
  · rw [trim_prepend_blank hcs, trim_blank h, trim_blank hcs]
  · rw [trim, trim, trimLeft_append hcs, trimRight_append_blank h]

/-- Trimming may start on the left. -/
theorem trim_trimLeft (cs : List Char) : trim (trimLeft cs) = trim cs := by
  have hcs : cs.takeWhile isBlank ++ trimLeft cs = cs := List.takeWhile_append_dropWhile
  conv_rhs => rw [← hcs, trim_prepend_blank fun c hc => List.mem_takeWhile_imp hc]

/-- What trimming on the right takes away is blank. -/
theorem trimRight_append_rest (cs : List Char) :
    trimRight cs ++ (cs.reverse.takeWhile isBlank).reverse = cs := by
  rw [trimRight, ← List.reverse_append, List.takeWhile_append_dropWhile, List.reverse_reverse]

/-- Trimming may start on the right. -/
theorem trim_trimRight (cs : List Char) : trim (trimRight cs) = trim cs := by
  conv_rhs => rw [← trimRight_append_rest cs, trim_append_blank fun c hc =>
    List.mem_takeWhile_imp (List.mem_reverse.mp hc)]

/-- Blanks before a text are kept or dropped from the right with nothing else. -/
theorem trimRight_append {as cs : List Char} (h : ¬∀ c ∈ cs, isBlank c = true) :
    trimRight (as ++ cs) = as ++ trimRight cs := by
  have hrev : ¬∀ c ∈ cs.reverse, isBlank c = true := by
    simpa only [List.mem_reverse] using h
  have hleft : trimLeft (cs.reverse ++ as.reverse) = trimLeft cs.reverse ++ as.reverse :=
    trimLeft_append hrev
  rw [trimLeft, trimLeft] at hleft
  rw [trimRight, trimRight, List.reverse_append, hleft, List.reverse_append, List.reverse_reverse]

/-- A character that is no blank keeps what stands before it. -/
theorem trimRight_around {c : Char} (hc : isBlank c = false) (as ds : List Char) :
    trimRight (as ++ c :: ds) = as ++ c :: trimRight ds := by
  have hcs : ¬∀ d ∈ c :: ds, isBlank d = true := by
    intro h
    rw [h c List.mem_cons_self] at hc
    cases hc
  rw [trimRight_append hcs]
  by_cases hds : ∀ d ∈ ds, isBlank d = true
  · have hone : trimRight ([] ++ [c]) = [] ++ [c] := trimRight_eq_self hc
    have hnil : trimRight ([] ++ ds) = trimRight [] := trimRight_append_blank hds []
    rw [List.nil_append] at hone hnil
    rw [← List.singleton_append, trimRight_append_blank hds, hone, hnil]
    rfl
  · rw [← List.singleton_append, trimRight_append hds]
    rfl

/-- Around a character that is no blank, **each side is trimmed on its own**. -/
theorem trim_around {c : Char} (hc : isBlank c = false) (cs ds : List Char) :
    trim (cs ++ c :: ds) = trimLeft cs ++ c :: trimRight ds := by
  have hleft : trimLeft (cs ++ c :: ds) = trimLeft cs ++ c :: ds := by
    by_cases hcs : ∀ d ∈ cs, isBlank d = true
    · have hnil := trimLeft_append_blank hcs []
      rw [List.append_nil] at hnil
      rw [trimLeft_append_blank hcs, trimLeft_eq_self hc, hnil]
      rfl
    · exact trimLeft_append hcs
  rw [trim, hleft, trimRight_around hc]

/-- Trimming leaves a text between blanks. -/
theorem trimsTo_trim (cs : List Char) : TrimsTo cs (trim cs) := by
  obtain ⟨d, hd⟩ : ∃ d, trimLeft cs = d := ⟨_, rfl⟩
  have hcs : cs.takeWhile isBlank ++ d = cs := by
    rw [← hd, trimLeft, List.takeWhile_append_dropWhile]
  have hdr : trim cs ++ (d.reverse.takeWhile isBlank).reverse = d := by
    rw [trim, hd, trimRight_append_rest]
  refine ⟨cs.takeWhile isBlank, (d.reverse.takeWhile isBlank).reverse, ?_, ?_, ?_, ?_, ?_⟩
  · rw [List.append_assoc, hdr, hcs]
  · exact fun c hc => List.mem_takeWhile_imp hc
  · exact fun c hc => List.mem_takeWhile_imp (List.mem_reverse.mp hc)
  · intro c hc
    have hdc : d.head? = some c := by rw [← hdr, List.head?_append, hc, Option.some_or]
    have hnot := List.head?_dropWhile_not isBlank cs
    rw [← trimLeft, hd, hdc] at hnot
    exact hnot
  · intro c hc
    have hnot := List.head?_dropWhile_not isBlank d.reverse
    rw [trim, hd, trimRight, List.getLast?_reverse] at hc
    rw [hc] at hnot
    exact hnot

/-- A text between blanks is what trimming leaves. -/
theorem trim_of_trimsTo {cs m : List Char} (h : TrimsTo cs m) : trim cs = m := by
  obtain ⟨before, after, rfl, hb, ha, hhead, hlast⟩ := h
  rw [trim, List.append_assoc, trimLeft_append_blank hb]
  cases m with
  | nil =>
    rw [List.nil_append]
    exact trim_blank ha
  | cons c m =>
    have hself := trim_eq_self hhead hlast
    rw [trim, trimLeft_eq_self (hhead c rfl)] at hself
    rw [List.cons_append, trimLeft_eq_self (hhead c rfl), ← List.cons_append,
      trimRight_append_blank ha, hself]

/-- **Trimming** takes away the blanks at both ends and nothing else. -/
theorem trim_eq_iff {cs m : List Char} : trim cs = m ↔ TrimsTo cs m :=
  ⟨fun h => h ▸ trimsTo_trim cs, trim_of_trimsTo⟩

/-! ### Splitting -/

/-- **A split is made at the first separator.** -/
theorem splitAtFirst_eq_some_iff {sep : Char} {cs before after : List Char} :
    splitAtFirst sep cs = some (before, after) ↔ cs = before ++ sep :: after ∧ sep ∉ before := by
  induction cs generalizing before with
  | nil => simp [splitAtFirst]
  | cons c cs ih =>
    rw [splitAtFirst]
    split
    · rename_i hc
      subst hc
      cases before with
      | nil => simp [eq_comm]
      | cons b before => simp +contextual [eq_comm]
    · rename_i hc
      rw [Option.map_eq_some_iff]
      constructor
      · rintro ⟨⟨b, a⟩, h, hba⟩
        obtain ⟨rfl, rfl⟩ := Prod.mk.inj hba
        obtain ⟨rfl, hb⟩ := ih.mp h
        refine ⟨rfl, fun hm => ?_⟩
        rcases List.mem_cons.mp hm with rfl | hm
        · exact hc rfl
        · exact hb hm
      · rintro ⟨h, hb⟩
        cases before with
        | nil => exact absurd (List.cons.inj h).1 hc
        | cons b before =>
          obtain ⟨rfl, rfl⟩ := List.cons.inj h
          exact ⟨(before, after), ih.mpr ⟨rfl, fun hm => hb (List.mem_cons_of_mem _ hm)⟩, rfl⟩

/-- There is no split exactly if the separator does not occur. -/
theorem splitAtFirst_eq_none_iff {sep : Char} {cs : List Char} :
    splitAtFirst sep cs = none ↔ sep ∉ cs := by
  induction cs with
  | nil => simp [splitAtFirst]
  | cons c cs ih =>
    rw [splitAtFirst]
    split
    · rename_i hc
      simp [hc]
    · rename_i hc
      rw [Option.map_eq_none_iff, ih, List.mem_cons, not_or]
      exact ⟨fun h => ⟨Ne.symm hc, h⟩, fun h => h.2⟩

end Text

namespace Decimal

/-! ### Numerals -/

/-- **The numeral of a number**: at least one digit, maybe behind a plus sign. The digits may start
with zeros. -/
def Denotes (cs : List Char) (n : Nat) : Prop :=
  ∃ ds, (cs = ds ∨ cs = '+' :: ds) ∧ ds ≠ [] ∧ (∀ c ∈ ds, c.isDigit = true) ∧
    Nat.ofDigitChars 10 ds 0 = n

theorem digitValue?_eq_some_iff {c : Char} {d : Nat} :
    digitValue? c = some d ↔ c.isDigit = true ∧ c.toNat - 48 = d := by
  have h : c.isDigit = true ↔ 48 ≤ c.toNat ∧ c.toNat ≤ 57 := by
    simp only [Char.isDigit, Bool.and_eq_true, decide_eq_true_eq]
    rfl
  rw [digitValue?, h]
  split
  · rename_i hc
    simp [hc]
  · rename_i hc
    simp [hc]

/-- Digits that follow do not make a number smaller. -/
theorem le_ofDigitChars (acc : Nat) (cs : List Char) : acc ≤ Nat.ofDigitChars 10 cs acc := by
  rw [Nat.ofDigitChars_eq_ofDigitChars_zero]
  have := Nat.le_mul_of_pos_left acc (Nat.pow_pos (n := cs.length) (show 0 < 10 by decide))
  omega

/-- Digits are read as long as the number they make fits. It never gets smaller on the way, so it
is enough that it fits at the end. -/
theorem readDigits_eq_ok_iff {acc m : Nat} {cs : List Char} (hacc : acc < UInt64.size) :
    readDigits acc cs = .ok m ↔
      (∀ c ∈ cs, c.isDigit = true) ∧ Nat.ofDigitChars 10 cs acc = m ∧ m < UInt64.size := by
  induction cs generalizing acc with
  | nil =>
    simp only [readDigits, Except.ok.injEq, Nat.ofDigitChars_nil]
    constructor
    · rintro rfl
      exact ⟨by simp, rfl, hacc⟩
    · exact fun h => h.2.1
  | cons c cs ih =>
    rw [readDigits, Nat.ofDigitChars_cons]
    cases hd : digitValue? c with
    | none =>
      have hc : ¬c.isDigit = true := by
        intro hc
        rw [digitValue?_eq_some_iff.mpr ⟨hc, rfl⟩] at hd
        cases hd
      simp [hc]
    | some d =>
      obtain ⟨hc, rfl⟩ := digitValue?_eq_some_iff.mp hd
      have he : 10 * acc + (c.toNat - '0'.toNat) = acc * 10 + (c.toNat - 48) := by
        rw [Nat.mul_comm]
        rfl
      simp only [he]
      split
      · rename_i hlt
        rw [ih hlt]
        simp [hc]
      · rename_i hlt
        have := le_ofDigitChars (acc * 10 + (c.toNat - 48)) cs
        constructor
        · intro h
          cases h
        · rintro ⟨-, rfl, h⟩
          omega

/-- Reading digits onto nothing reads a 64-bit number. -/
theorem map_readDigits_eq_ok_iff {cs : List Char} {n : UInt64} :
    (readDigits 0 cs).map Nat.toUInt64 = .ok n ↔
      (∀ c ∈ cs, c.isDigit = true) ∧ Nat.ofDigitChars 10 cs 0 = n.toNat := by
  have hr (m : Nat) : readDigits 0 cs = .ok m ↔
      (∀ c ∈ cs, c.isDigit = true) ∧ Nat.ofDigitChars 10 cs 0 = m ∧ m < UInt64.size :=
    readDigits_eq_ok_iff (by decide)
  constructor
  · intro h
    cases hd : readDigits 0 cs with
    | error e =>
      rw [hd] at h
      cases h
    | ok m =>
      obtain ⟨hdig, hval, hm⟩ := (hr m).mp hd
      rw [hd, Except.map, Except.ok.injEq] at h
      subst h
      exact ⟨hdig, hval.trans (UInt64.toNat_ofNat_of_lt' hm).symm⟩
  · rintro ⟨hdig, hval⟩
    rw [(hr n.toNat).mpr ⟨hdig, hval, n.toNat_lt_size⟩, Except.map]
    exact congrArg Except.ok UInt64.ofNat_toNat

/-- **Numerals of 64-bit numbers**, and nothing else, are read. -/
theorem readUInt64_eq_ok_iff {cs : List Char} {n : UInt64} :
    readUInt64 cs = .ok n ↔ Denotes cs n.toNat := by
  unfold readUInt64
  split
  · simp [Denotes]
  · constructor
    · intro h
      cases h
    · rintro ⟨ds, rfl | h, hne, hdig, -⟩
      · exact absurd (hdig '+' (List.mem_singleton.mpr rfl)) (by decide)
      · exact absurd (List.cons.inj h).2.symm hne
  · rename_i cs hcs
    rw [map_readDigits_eq_ok_iff]
    constructor
    · rintro ⟨hdig, hval⟩
      exact ⟨cs, .inr rfl, fun h => hcs h, hdig, hval⟩
    · rintro ⟨ds, rfl | h, -, hdig, hval⟩
      · exact absurd (hdig '+' List.mem_cons_self) (by decide)
      · rw [(List.cons.inj h).2]
        exact ⟨hdig, hval⟩
  · rename_i hne _ hplus
    rw [map_readDigits_eq_ok_iff]
    constructor
    · rintro ⟨hdig, hval⟩
      exact ⟨cs, .inl rfl, hne, hdig, hval⟩
    · rintro ⟨ds, rfl | h, -, hdig, hval⟩
      · exact ⟨hdig, hval⟩
      · exact absurd h (hplus ds)

/-! ### Numerals that are written -/

/-- The numeral of a 64-bit number denotes it. -/
theorem denotes_digits (n : UInt64) : Denotes (digits n.toNat) n.toNat :=
  readUInt64_eq_ok_iff.mp (readUInt64_digits n)

/-- The character of a digit is a digit. -/
theorem isDigit_digitChar {d : Nat} (h : d < 10) : (digitChar d).isDigit = true :=
  (digitValue?_eq_some_iff.mp (digitValue?_digitChar h)).1

/-- A numeral that is written has no plus sign, only digits. -/
theorem isDigit_of_mem_digits {n : Nat} {c : Char} (h : c ∈ digits n) : c.isDigit = true := by
  induction n using Nat.strongRecOn with
  | _ n ih =>
    rw [digits] at h
    split at h
    · rename_i hn
      rw [List.mem_singleton.mp h]
      exact isDigit_digitChar hn
    · rcases List.mem_append.mp h with hmem | hlast
      · exact ih (n / 10) (by omega) hmem
      · rw [List.mem_singleton.mp hlast]
        exact isDigit_digitChar (Nat.mod_lt n (by decide))

/-- Where the digits are among the characters. -/
theorem toNat_of_isDigit {c : Char} (h : c.isDigit = true) : 48 ≤ c.toNat ∧ c.toNat ≤ 57 := by
  simp only [Char.isDigit, Bool.and_eq_true, decide_eq_true_eq] at h
  exact h

/-- The characters of a numeral that is written are below `0x80`. -/
theorem toNat_lt_of_mem_digits {n : UInt64} {c : Char} (h : c ∈ digits n.toNat) :
    c.toNat < 0x80 := by
  have hdigit := toNat_of_isDigit (isDigit_of_mem_digits h)
  omega

/-- A digit is no blank. -/
theorem isBlank_of_isDigit {c : Char} (h : c.isDigit = true) : Text.isBlank c = false := by
  have hc := toNat_of_isDigit h
  simp only [Text.isBlank, Bool.or_eq_false_iff, Bool.and_eq_false_iff, decide_eq_false_iff_not,
    beq_eq_false_iff_ne]
  omega

/-- There are no blanks to trim from a numeral. -/
theorem trim_digits (n : UInt64) : Text.trim (digits n.toNat) = digits n.toNat :=
  Text.trim_eq_self
    (fun _ hc => isBlank_of_isDigit (isDigit_of_mem_digits (List.mem_of_head? hc)))
    (fun _ hc => isBlank_of_isDigit (isDigit_of_mem_digits (List.mem_of_getLast? hc)))

/-! ### Numerals digit by digit -/

/-- The numeral of a number from ten on is that of its tenth with one more digit. -/
theorem digits_of_le {n : Nat} (h : 10 ≤ n) :
    digits n = digits (n / 10) ++ [digitChar (n % 10)] := by
  rw [digits, if_neg (Nat.not_lt_of_le h)]

/-- **One more digit** at the end of a numeral. -/
theorem ofDigitChars_concat {d : Nat} (cs : List Char) (h : d < 10) :
    Nat.ofDigitChars 10 (cs ++ [digitChar d]) 0 = 10 * Nat.ofDigitChars 10 cs 0 + d := by
  have hvalue : (digitChar d).toNat - '0'.toNat = d :=
    (digitValue?_eq_some_iff.mp (digitValue?_digitChar h)).2
  rw [Nat.ofDigitChars_append, Nat.ofDigitChars_cons, Nat.ofDigitChars_nil, hvalue]

/-- The digits of a numeral have the value that it is written for. -/
theorem ofDigitChars_digits (n : Nat) : Nat.ofDigitChars 10 (digits n) 0 = n := by
  induction n using Nat.strongRecOn with
  | _ n ih =>
    rcases Nat.lt_or_ge n 10 with hn | hn
    · rw [digits, if_pos hn, ← List.nil_append [digitChar n], ofDigitChars_concat [] hn,
        Nat.ofDigitChars_nil, Nat.mul_zero, Nat.zero_add]
    · rw [digits_of_le hn, ofDigitChars_concat _ (Nat.mod_lt n (by decide)), ih (n / 10) (by omega),
        Nat.div_add_mod]

/-- How many digits a number has **at most**. -/
theorem length_digits_le {n k : Nat} (hk : 0 < k) (h : n < 10 ^ k) : (digits n).length ≤ k := by
  induction k generalizing n with
  | zero => exact absurd hk (Nat.lt_irrefl 0)
  | succ k ih =>
    rcases Nat.lt_or_ge n 10 with hn | hn
    · rw [digits, if_pos hn]
      exact hk
    · have htenth : n / 10 < 10 ^ k := Nat.div_lt_of_lt_mul (Nat.pow_succ' ▸ h)
      have hpos : 0 < k := by
        rcases Nat.eq_zero_or_pos k with rfl | hpos
        · exact absurd h (Nat.not_lt_of_le hn)
        · exact hpos
      rw [digits_of_le hn, List.length_append, List.length_singleton]
      exact Nat.succ_le_succ (ih hpos htenth)

/-- **Cutting off digits** at the end is dividing by a power of ten. -/
theorem take_digits {n j : Nat} (hj : j < (digits n).length) :
    (digits n).take ((digits n).length - j) = digits (n / 10 ^ j) := by
  induction j generalizing n with
  | zero => rw [Nat.sub_zero, List.take_length, Nat.pow_zero, Nat.div_one]
  | succ j ih =>
    rcases Nat.lt_or_ge n 10 with hn | hn
    · rw [digits, if_pos hn, List.length_singleton] at hj
      omega
    · have hlen : (digits n).length = (digits (n / 10)).length + 1 := by
        rw [digits_of_le hn, List.length_append, List.length_singleton]
      have hrest : (digits n).length - (j + 1) = (digits (n / 10)).length - j := by omega
      rw [hrest, digits_of_le hn, List.take_append_of_le_length (Nat.sub_le _ _), ih (by omega),
        Nat.div_div_eq_div_mul, Nat.pow_succ']

/-- **What is left of a numeral**, if it is anything, is the numeral of a quotient. -/
theorem exists_of_prefix_digits {n : Nat} {ds : List Char} (h : ds <+: digits n) (hne : ds ≠ []) :
    ∃ j, ds.length + j = (digits n).length ∧ j < (digits n).length ∧ ds = digits (n / 10 ^ j) := by
  have hpos := List.length_pos_iff.mpr hne
  have hle := h.length_le
  refine ⟨(digits n).length - ds.length, by omega, by omega, ?_⟩
  rw [← take_digits (by omega), Nat.sub_sub_self hle]
  exact List.prefix_iff_eq_take.mp h

end Decimal

end RayTally
