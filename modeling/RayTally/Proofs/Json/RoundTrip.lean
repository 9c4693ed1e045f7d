import Mathlib.Data.List.TakeDrop
import RayTally.Json.Reader
import RayTally.Proofs.Text.Field

/-!
# JSON reads back

The compact text of a value is read back as the value, by induction over the value. Two kinds of
values are left out: binary64 numbers, and objects whose members are not in the order of their
names, since members are put into that order when they are read.

A reader takes a value from the left of a longer text. What follows must not go on with a number,
which is the only kind of value whose text does not show where it ends.

## Main results

* `Json.stringBody_escape`: the characters of a string, escaped, read back.
* `Json.number_digits`: a 64-bit numeral is read exactly, not as a binary64 number.
* `Json.Exact.readsBack`: a value is read from the left of a text.
* `Json.ofText_text`: a document of one value reads back.
-/

namespace RayTally

namespace Decimal

/-- Only the numeral of zero starts with a zero. -/
theorem eq_zero_of_head_digits {n : Nat} (h : (digits n).head? = some '0') : n = 0 := by
  induction n using Nat.strongRecOn with
  | _ n ih =>
    rw [digits] at h
    split at h
    · rename_i hn
      have hdigit : ∀ d < 10, digitChar d = '0' → d = 0 := by decide
      exact hdigit n hn (Option.some.inj h)
    · rename_i hn
      rw [List.head?_append_of_ne_nil _ (digits_ne_nil _)] at h
      have hzero := ih (n / 10) (by omega) h
      omega

end Decimal

namespace Json

variable {fuel depth : Nat} {c : Char} {cs rest : List Char} {v : Json}

/-! ### Strings -/

theorem hexValue?_hexDigit : ∀ n < 16, hexValue? (hexDigit n) = some n := by decide

/-- A control is read from its two hexadecimal digits. -/
theorem codePoint_control (h : c.toNat < 0x20) (rest : List Char) :
    codePoint ('0' :: '0' :: hexDigit (c.toNat / 16) :: hexDigit (c.toNat % 16) :: rest) =
      .ok (c, rest) := by
  have hhigh := hexValue?_hexDigit (c.toNat / 16) (by omega)
  have hlow := hexValue?_hexDigit (c.toNat % 16) (by omega)
  have hvalue : c.toNat / 16 * 16 + c.toNat % 16 = c.toNat := by omega
  have hzero : hexValue? '0' = some 0 := rfl
  have hfour : fourHex ('0' :: '0' :: hexDigit (c.toNat / 16) :: hexDigit (c.toNat % 16) :: rest) =
      .ok (c.toNat, rest) := by
    simp only [fourHex, hzero, hhigh, hlow, Nat.zero_mul, Nat.zero_add, hvalue]
  rw [codePoint, hfour]
  simp only [Char.ofNat_toNat]
  rw [if_neg (by omega), if_pos (by omega)]

/-- **A character reads back** from its escape. -/
theorem stringRest_escape (fuel : Nat) (acc : List Char) (c : Char) (rest : List Char) :
    stringRest (fuel + 1) acc (escape c ++ rest) = stringRest fuel (c :: acc) rest := by
  unfold escape
  split
  case h_8 hquote hbackslash _ _ _ _ _ =>
    split
    · rename_i hcontrol
      simp only [List.cons_append, List.nil_append, stringRest]
      rw [codePoint_control hcontrol]
    · rename_i hcontrol
      have hquote : c ≠ '"' := hquote
      have hbackslash : c ≠ '\\' := hbackslash
      rw [List.cons_append, List.nil_append, stringRest, if_neg hcontrol]
      · exact hquote
      · exact fun h _ => hbackslash h
      · exact fun _ h _ => hbackslash h
      · exact fun _ _ h _ => hbackslash h
  all_goals rfl

/-- The characters of a string read back, up to the closing quote. -/
theorem stringRest_flatMap_escape (acc : List Char) (h : cs.length < fuel) (rest : List Char) :
    stringRest fuel acc (cs.flatMap escape ++ '"' :: rest) = .ok (acc.reverse ++ cs, rest) := by
  induction cs generalizing fuel acc with
  | nil =>
    obtain ⟨fuel, rfl⟩ := Nat.exists_eq_succ_of_ne_zero (Nat.ne_zero_of_lt h)
    rw [List.append_nil]
    rfl
  | cons c cs ih =>
    obtain ⟨fuel, rfl⟩ := Nat.exists_eq_succ_of_ne_zero (Nat.ne_zero_of_lt h)
    rw [List.flatMap_cons, List.append_assoc, stringRest_escape, ih _ (Nat.lt_of_succ_lt_succ h),
      List.reverse_cons, List.append_assoc]
    rfl

theorem escape_ne_nil (c : Char) : escape c ≠ [] := by
  unfold escape
  split
  case h_8 => split <;> exact List.cons_ne_nil _ _
  all_goals exact List.cons_ne_nil _ _

theorem length_le_flatMap_escape (cs : List Char) : cs.length ≤ (cs.flatMap escape).length := by
  induction cs with
  | nil => exact Nat.le_refl _
  | cons c cs ih =>
    have := List.length_pos_iff.mpr (escape_ne_nil c)
    rw [List.flatMap_cons, List.length_append, List.length_cons]
    omega

/-- **A string reads back** behind its opening quote. -/
theorem stringBody_escape (cs rest : List Char) :
    stringBody (cs.flatMap escape ++ '"' :: rest) = .ok (cs, rest) := by
  refine stringRest_flatMap_escape [] ?_ rest
  have := length_le_flatMap_escape cs
  rw [List.length_append]
  omega

/-! ### Numbers -/

/-- The text does not **go on with a number**. -/
def EndsNumber (rest : List Char) : Prop :=
  ∀ c ∈ rest.head?, Decimal.digitValue? c = none ∧ c ≠ '.' ∧ c ≠ 'e' ∧ c ≠ 'E'

/-- Digits that fit are all taken. -/
theorem takeDigits_of_readDigits {n m : Nat} (h : Decimal.readDigits n cs = .ok m) (taken : Nat) :
    takeDigits n taken cs = (m, taken + cs.length, []) := by
  induction cs generalizing n taken with
  | nil =>
    cases h
    rfl
  | cons c cs ih =>
    rw [Decimal.readDigits] at h
    split at h
    · cases h
    rename_i d hd
    split at h
    · rename_i hlt
      simp only [takeDigits, hd, Option.getD_some]
      rw [if_pos hlt, ih h, List.length_cons]
      congr 2
      omega
    · cases h

/-- Digits are taken up to where the number ends. -/
theorem spanDigits_append (hcs : ∀ c ∈ cs, c.isDigit = true) (hrest : EndsNumber rest) :
    spanDigits (cs ++ rest) = (cs, rest) := by
  have hdigit : ∀ c ∈ cs, (Decimal.digitValue? c).isSome = true := by
    intro c hc
    rw [Decimal.digitValue?_eq_some_iff.mpr ⟨hcs c hc, rfl⟩]
    rfl
  rw [spanDigits, List.span_eq_takeWhile_dropWhile, List.takeWhile_append_of_pos hdigit,
    List.dropWhile_append_of_pos hdigit]
  cases rest with
  | nil => simp
  | cons c rest => simp [(hrest c rfl).1]

/-- **A 64-bit numeral is read exactly.** -/
theorem number_digits (n : UInt64) (hrest : EndsNumber rest) :
    number false (Decimal.digits n.toNat ++ rest) = .ok (.unsigned n, rest) := by
  have hspan : spanDigits (Decimal.digits n.toNat ++ rest) = (Decimal.digits n.toNat, rest) :=
    spanDigits_append (fun c hc => Decimal.isDigit_of_mem_digits hc) hrest
  have htake := takeDigits_of_readDigits (Decimal.readDigits_digits n.toNat_lt_size) 0
  have hne := Decimal.digits_ne_nil n.toNat
  rw [number, hspan]
  split
  case h_1 h => exact absurd (Prod.mk.inj h).1 hne
  case h_2 h => exact absurd (Prod.mk.inj h).1 hne
  case h_3 h =>
    have hdigits := (Prod.mk.inj h).1
    have hzero : n.toNat = 0 := Decimal.eq_zero_of_head_digits (by rw [hdigits]; rfl)
    rw [hzero, Decimal.digits, if_pos (by decide)] at hdigits
    cases hdigits
  case h_4 h =>
    obtain ⟨rfl, rfl⟩ := Prod.mk.inj h
    simp only [htake]
    split
    case h_1 hrest' => exact absurd rfl (hrest '.' rfl).2.1
    case h_2 => exact absurd rfl (hrest 'e' rfl).2.2.1
    case h_3 => exact absurd rfl (hrest 'E' rfl).2.2.2
    case h_4 => contradiction
    case h_5 =>
      rw [if_pos Bool.false_ne_true]
      congr 3
      exact UInt64.ofNat_toNat

/-! ### Values -/

/-- A value is **exact** if it holds no binary64 number and no negative one, if the members of its
objects are in the order of their names, and if it nests at most `depth` deep. -/
inductive Exact : Nat → Json → Prop
  | null (depth : Nat) : Exact depth .null
  | boolean (depth : Nat) (b : Bool) : Exact depth (.boolean b)
  | unsigned (depth : Nat) (n : UInt64) : Exact depth (.unsigned n)
  | string (depth : Nat) (cs : List Char) : Exact depth (.string cs)
  | array {depth : Nat} {vs : List Json} (items : ∀ v ∈ vs, Exact depth v) :
    Exact (depth + 1) (.array vs)
  | object {depth : Nat} {ms : List (List Char × Json)}
    (ordered : ms.Pairwise fun m m' => m.1 < m'.1) (values : ∀ m ∈ ms, Exact depth m.2) :
    Exact (depth + 1) (.object ms)

/-- The text of a value **reads back** from the left of a longer one. Two steps of the reader for
each character are enough. -/
def ReadsBack (depth : Nat) (v : Json) : Prop :=
  ∀ fuel rest, 2 * (text v).length ≤ fuel → EndsNumber rest →
    value fuel depth (text v ++ rest) = .ok (v, rest)

theorem skipBlanks_cons (hc : isBlank c = false) (cs : List Char) :
    skipBlanks (c :: cs) = c :: cs :=
  List.dropWhile_cons_of_neg (by rw [hc]; exact Bool.false_ne_true)

/-- The text of a value starts with a character of its own, which is no blank and closes nothing. -/
theorem Exact.text_eq_cons (hv : Exact depth v) :
    ∃ c cs, text v = c :: cs ∧ isBlank c = false ∧ c ≠ ']' := by
  cases hv with
  | null => exact ⟨'n', _, rfl, rfl, by decide⟩
  | boolean _ b =>
    cases b
    · exact ⟨'f', _, rfl, rfl, by decide⟩
    · exact ⟨'t', _, rfl, rfl, by decide⟩
  | unsigned _ n =>
    obtain ⟨d, hd, hhead⟩ := Decimal.head_digits n.toNat
    obtain ⟨cs, hcs⟩ := List.head?_eq_some_iff.mp hhead
    have hdigit : ∀ d < 10, isBlank (Decimal.digitChar d) = false ∧ Decimal.digitChar d ≠ ']' := by
      decide
    exact ⟨_, cs, hcs, hdigit d hd⟩
  | string => exact ⟨'"', _, rfl, rfl, by decide⟩
  | array => exact ⟨'[', _, text_array _, rfl, by decide⟩
  | object => exact ⟨'\x7b', _, text_object _, rfl, by decide⟩

theorem itemTexts_eq_map (vs : List Json) : itemTexts vs = vs.map text := by
  induction vs with
  | nil => rfl
  | cons v vs ih => rw [itemTexts, ih, List.map_cons]

/-- The text of a member: its name, a colon and its value. -/
def memberText (m : List Char × Json) : List Char := quoted m.1 ++ ':' :: text m.2

theorem memberTexts_eq_map (ms : List (List Char × Json)) : memberTexts ms = ms.map memberText := by
  induction ms with
  | nil => rfl
  | cons m ms ih => rw [memberTexts, ih, List.map_cons, memberText]

/-- Items but the first have a comma before them. -/
theorem separated_cons (item : List Char) (items : List (List Char)) :
    separated (item :: items) = item ++ items.flatMap (',' :: ·) := by
  induction items generalizing item with
  | nil => exact (List.append_nil item).symm
  | cons next items ih =>
    rw [separated, ih, List.flatMap_cons]
    · rfl
    · exact List.cons_ne_nil _ _

theorem endsNumber_cons (hc : c = ',' ∨ c = ']' ∨ c = '\x7d') (cs : List Char) :
    EndsNumber (c :: cs) := by
  rintro _ ⟨⟩
  obtain rfl | rfl | rfl := hc <;> decide

/-- What follows an item ends a number. -/
theorem endsNumber_flatMap (items : List (List Char)) (hc : EndsNumber rest) :
    EndsNumber (items.flatMap (',' :: ·) ++ rest) := by
  cases items with
  | nil => exact hc
  | cons item items => exact endsNumber_cons (.inl rfl) _

/-! ### Arrays -/

/-- The closing bracket ends the items. -/
theorem items_close (fuel depth : Nat) (isFirst : Bool) (acc : List Json) (rest : List Char) :
    items (fuel + 1) depth isFirst acc (']' :: rest) = .ok (acc.reverse, rest) := by
  rw [items]
  rfl

/-- **The first item** is read. -/
theorem items_first (hv : Exact depth v) (acc : List Json)
    (hread : value fuel depth (text v ++ rest) = .ok (v, rest)) :
    items (fuel + 1) depth true acc (text v ++ rest) = items fuel depth false (v :: acc) rest := by
  obtain ⟨c, cs, htext, hc, hclose⟩ := hv.text_eq_cons
  rw [htext, List.cons_append] at hread ⊢
  rw [items, skipBlanks_cons hc]
  split
  · contradiction
  · rename_i h
    exact absurd (List.cons.inj h).1 hclose
  · rename_i h
    obtain ⟨rfl, rfl⟩ := List.cons.inj h
    rw [if_pos rfl, hread]

/-- **A later item** is read behind its comma. -/
theorem items_later (hv : Exact depth v) (acc : List Json)
    (hread : value fuel depth (text v ++ rest) = .ok (v, rest)) :
    items (fuel + 1) depth false acc (',' :: text v ++ rest) =
      items fuel depth false (v :: acc) rest := by
  obtain ⟨c, cs, htext, hc, hclose⟩ := hv.text_eq_cons
  rw [htext, List.cons_append] at hread
  rw [htext, List.cons_append, List.cons_append, items, skipBlanks_cons rfl]
  split
  · contradiction
  · rename_i h
    exact absurd (List.cons.inj h).1 (by decide)
  · rename_i h
    obtain ⟨rfl, rfl⟩ := List.cons.inj h
    rw [if_neg Bool.false_ne_true, if_pos rfl, skipBlanks_cons hc]
    split
    · contradiction
    · rename_i h
      exact absurd (List.cons.inj h).1 hclose
    · rw [hread]

/-- The later items are read up to the closing bracket. -/
theorem items_flatMap {vs : List Json} (hvs : ∀ v ∈ vs, Exact depth v)
    (hread : ∀ v ∈ vs, ReadsBack depth v) (acc : List Json) (rest : List Char)
    (hfuel : 2 * ((vs.map text).flatMap (',' :: ·)).length + 1 ≤ fuel) :
    items fuel depth false acc ((vs.map text).flatMap (',' :: ·) ++ ']' :: rest) =
      .ok (acc.reverse ++ vs, rest) := by
  induction vs generalizing acc fuel with
  | nil =>
    obtain ⟨fuel, rfl⟩ := Nat.exists_eq_add_of_le' hfuel
    rw [List.append_nil]
    exact items_close _ depth false acc rest
  | cons v vs ih =>
    obtain ⟨hv, hvs⟩ := List.forall_mem_cons.mp hvs
    obtain ⟨hreadv, hread⟩ := List.forall_mem_cons.mp hread
    rw [List.map_cons, List.flatMap_cons, List.length_append, List.length_cons] at hfuel
    obtain ⟨fuel, rfl⟩ := Nat.exists_eq_add_of_le' (Nat.le_of_add_left_le hfuel)
    have hends : EndsNumber ((vs.map text).flatMap (',' :: ·) ++ ']' :: rest) :=
      endsNumber_flatMap _ (endsNumber_cons (by decide) rest)
    rw [List.map_cons, List.flatMap_cons, List.append_assoc,
      items_later hv acc (hreadv fuel _ (by omega) hends), ih hvs hread _ (by omega),
      List.reverse_cons, List.append_assoc]
    rfl

/-- **The items of an array read back.** -/
theorem items_separated {vs : List Json} (hvs : ∀ v ∈ vs, Exact depth v)
    (hread : ∀ v ∈ vs, ReadsBack depth v) (rest : List Char)
    (hfuel : 2 * (separated (itemTexts vs)).length + 1 ≤ fuel) :
    items fuel depth true [] (separated (itemTexts vs) ++ ']' :: rest) = .ok (vs, rest) := by
  obtain ⟨fuel, rfl⟩ := Nat.exists_eq_add_of_le' (Nat.le_of_add_left_le hfuel)
  rw [itemTexts_eq_map] at hfuel ⊢
  cases vs with
  | nil => exact items_close fuel depth true [] rest
  | cons v vs =>
    obtain ⟨hv, hvs⟩ := List.forall_mem_cons.mp hvs
    obtain ⟨hreadv, hread⟩ := List.forall_mem_cons.mp hread
    rw [List.map_cons, separated_cons] at hfuel ⊢
    rw [List.length_append] at hfuel
    have hends : EndsNumber ((vs.map text).flatMap (',' :: ·) ++ ']' :: rest) :=
      endsNumber_flatMap _ (endsNumber_cons (by decide) rest)
    obtain ⟨c, cs, htext, -⟩ := hv.text_eq_cons
    have hpos : 0 < (text v).length := by rw [htext]; exact Nat.succ_pos _
    rw [List.append_assoc, items_first hv [] (hreadv fuel _ (by omega) hends),
      items_flatMap hvs hread [v] rest (by omega)]
    rfl

/-! ### Objects -/

/-- A member whose name comes after those before it is added at the end. -/
theorem insert_eq_append {key : List Char} {ms : List (List Char × Json)} (v : Json)
    (hms : ∀ m ∈ ms, m.1 < key) : insert key v ms = ms ++ [(key, v)] := by
  induction ms with
  | nil => rfl
  | cons m ms ih =>
    obtain ⟨hm, hms⟩ := List.forall_mem_cons.mp hms
    have hne : key ≠ m.1 := by
      rintro rfl
      exact List.lt_irrefl _ hm
    rw [insert, if_neg hne, if_neg (List.lt_asymm hm), ih hms, List.cons_append]

theorem memberText_append (m : List Char × Json) (rest : List Char) :
    memberText m ++ rest = '"' :: (m.1.flatMap escape ++ '"' :: ':' :: (text m.2 ++ rest)) := by
  simp [memberText, quoted]

theorem length_memberText (m : List Char × Json) :
    (memberText m).length = (m.1.flatMap escape).length + (text m.2).length + 3 := by
  simp only [memberText, quoted, List.length_append, List.length_cons, List.length_nil]
  omega

/-- **A member** is read behind the quote that opens its name. -/
theorem member_eq {m : List Char × Json} (acc : List (List Char × Json))
    (hread : value fuel depth (text m.2 ++ rest) = .ok (m.2, rest)) :
    member (fuel + 1) depth acc (m.1.flatMap escape ++ '"' :: ':' :: (text m.2 ++ rest)) =
      members fuel depth false (insert m.1 m.2 acc) rest := by
  rw [member, stringBody_escape]
  dsimp only
  rw [skipBlanks_cons rfl]
  split
  · contradiction
  · rename_i h
    rw [← (List.cons.inj h).2, hread]
  · rename_i h
    exact absurd rfl (h _)

/-- The closing brace ends the members. -/
theorem members_close (fuel depth : Nat) (isFirst : Bool) (acc : List (List Char × Json))
    (rest : List Char) :
    members (fuel + 1) depth isFirst acc ('\x7d' :: rest) = .ok (acc, rest) := by
  rw [members]
  rfl

/-- **The first member** is read. -/
theorem members_first {m : List Char × Json} (acc : List (List Char × Json))
    (hread : value fuel depth (text m.2 ++ rest) = .ok (m.2, rest)) :
    members (fuel + 2) depth true acc (memberText m ++ rest) =
      members fuel depth false (insert m.1 m.2 acc) rest := by
  rw [memberText_append, members, skipBlanks_cons rfl]
  split
  · contradiction
  · rename_i h
    exact absurd (List.cons.inj h).1 (by decide)
  · rename_i h
    obtain ⟨rfl, rfl⟩ := List.cons.inj h
    rw [if_pos rfl, if_pos rfl, member_eq acc hread]

/-- **A later member** is read behind its comma. -/
theorem members_later {m : List Char × Json} (acc : List (List Char × Json))
    (hread : value fuel depth (text m.2 ++ rest) = .ok (m.2, rest)) :
    members (fuel + 2) depth false acc (',' :: memberText m ++ rest) =
      members fuel depth false (insert m.1 m.2 acc) rest := by
  rw [List.cons_append, memberText_append, members, skipBlanks_cons rfl]
  split
  · contradiction
  · rename_i h
    exact absurd (List.cons.inj h).1 (by decide)
  · rename_i h
    obtain ⟨rfl, rfl⟩ := List.cons.inj h
    rw [if_neg Bool.false_ne_true, if_pos rfl, skipBlanks_cons rfl]
    exact member_eq acc hread

/-- The later members are read up to the closing brace. -/
theorem members_flatMap {ms : List (List Char × Json)} (acc : List (List Char × Json))
    (hordered : (acc ++ ms).Pairwise fun m m' => m.1 < m'.1)
    (hread : ∀ m ∈ ms, ReadsBack depth m.2) (rest : List Char)
    (hfuel : 2 * ((ms.map memberText).flatMap (',' :: ·)).length + 1 ≤ fuel) :
    members fuel depth false acc ((ms.map memberText).flatMap (',' :: ·) ++ '\x7d' :: rest) =
      .ok (acc ++ ms, rest) := by
  induction ms generalizing acc fuel with
  | nil =>
    obtain ⟨fuel, rfl⟩ := Nat.exists_eq_add_of_le' hfuel
    rw [List.append_nil]
    exact members_close _ depth false acc rest
  | cons m ms ih =>
    obtain ⟨hreadm, hread⟩ := List.forall_mem_cons.mp hread
    have hlength := length_memberText m
    rw [List.map_cons, List.flatMap_cons, List.length_append, List.length_cons] at hfuel
    obtain ⟨fuel, rfl⟩ := Nat.exists_eq_add_of_le' (show 2 ≤ fuel by omega)
    have hends : EndsNumber ((ms.map memberText).flatMap (',' :: ·) ++ '\x7d' :: rest) :=
      endsNumber_flatMap _ (endsNumber_cons (by decide) rest)
    have hbefore : ∀ m' ∈ acc, m'.1 < m.1 :=
      fun m' hm' => (List.pairwise_append.mp hordered).2.2 m' hm' m List.mem_cons_self
    have hordered' : ((acc ++ [m]) ++ ms).Pairwise fun m m' => m.1 < m'.1 := by
      rwa [List.append_assoc]
    rw [List.map_cons, List.flatMap_cons, List.append_assoc,
      members_later acc (hreadm fuel _ (by omega) hends), insert_eq_append _ hbefore,
      ih _ hordered' hread (by omega), List.append_assoc]
    rfl

/-- **The members of an object read back.** -/
theorem members_separated {ms : List (List Char × Json)}
    (hordered : ms.Pairwise fun m m' => m.1 < m'.1)
    (hread : ∀ m ∈ ms, ReadsBack depth m.2) (rest : List Char)
    (hfuel : 2 * (separated (memberTexts ms)).length + 1 ≤ fuel) :
    members fuel depth true [] (separated (memberTexts ms) ++ '\x7d' :: rest) = .ok (ms, rest) := by
  rw [memberTexts_eq_map] at hfuel ⊢
  cases ms with
  | nil =>
    obtain ⟨fuel, rfl⟩ := Nat.exists_eq_add_of_le' (Nat.le_of_add_left_le hfuel)
    exact members_close fuel depth true [] rest
  | cons m ms =>
    obtain ⟨hreadm, hread⟩ := List.forall_mem_cons.mp hread
    have hlength := length_memberText m
    rw [List.map_cons, separated_cons] at hfuel ⊢
    rw [List.length_append] at hfuel
    obtain ⟨fuel, rfl⟩ := Nat.exists_eq_add_of_le' (show 2 ≤ fuel by omega)
    have hends : EndsNumber ((ms.map memberText).flatMap (',' :: ·) ++ '\x7d' :: rest) :=
      endsNumber_flatMap _ (endsNumber_cons (by decide) rest)
    rw [List.append_assoc, members_first [] (hreadm fuel _ (by omega) hends)]
    exact members_flatMap [m] hordered hread rest (by omega)

/-! ### Documents -/

/-- The reader has a step to take, since no text is empty. -/
theorem Exact.readsBack_of_succ (hv : Exact depth v)
    (hread : ∀ fuel rest, 2 * (text v).length ≤ fuel + 1 → EndsNumber rest →
      value (fuel + 1) depth (text v ++ rest) = .ok (v, rest)) : ReadsBack depth v := by
  intro fuel rest hfuel hends
  obtain ⟨c, cs, htext, -⟩ := hv.text_eq_cons
  have hpos : 0 < (text v).length := by
    rw [htext]
    exact Nat.succ_pos _
  obtain ⟨fuel, rfl⟩ := Nat.exists_eq_add_of_le' (show 1 ≤ fuel by omega)
  exact hread fuel rest hfuel hends

/-- A value that starts with a digit is a number. -/
theorem value_digits (fuel depth n : Nat) (rest : List Char) :
    value (fuel + 1) depth (Decimal.digits n ++ rest) =
      number false (Decimal.digits n ++ rest) := by
  obtain ⟨d, hd, hhead⟩ := Decimal.head_digits n
  obtain ⟨cs, hcs⟩ := List.head?_eq_some_iff.mp hhead
  rw [hcs, value]
  obtain rfl | rfl | rfl | rfl | rfl | rfl | rfl | rfl | rfl | rfl : d = 0 ∨ d = 1 ∨ d = 2 ∨ d = 3 ∨
      d = 4 ∨ d = 5 ∨ d = 6 ∨ d = 7 ∨ d = 8 ∨ d = 9 := by omega
  all_goals rfl

/-- **Every exact value reads back** from the left of a text. -/
theorem Exact.readsBack (hv : Exact depth v) : ReadsBack depth v := by
  induction hv with
  | null depth =>
    refine (null depth).readsBack_of_succ fun fuel rest _ _ => ?_
    rw [value]
    rfl
  | boolean depth b =>
    refine (boolean depth b).readsBack_of_succ fun fuel rest _ _ => ?_
    rw [value]
    cases b <;> rfl
  | unsigned depth n =>
    refine (unsigned depth n).readsBack_of_succ fun fuel rest _ hends => ?_
    rw [text, value_digits, number_digits n hends]
  | string depth cs =>
    refine (string depth cs).readsBack_of_succ fun fuel rest _ _ => ?_
    have hstring := stringBody_escape cs rest
    rw [text, quoted, List.cons_append, List.cons_append, List.append_assoc, value]
    change (stringBody (cs.flatMap escape ++ '"' :: rest)).map _ = _
    rw [hstring]
    rfl
  | @array depth vs hvs ih =>
    refine (array hvs).readsBack_of_succ fun fuel rest hfuel _ => ?_
    rw [text_array, List.length_append, List.length_cons, List.length_singleton] at hfuel
    have hitems : items fuel depth true [] (separated (itemTexts vs) ++ ']' :: rest) =
        .ok (vs, rest) := items_separated hvs ih rest (by omega)
    rw [text_array, List.cons_append, List.cons_append, List.append_assoc, value]
    change (items fuel depth true [] (separated (itemTexts vs) ++ ']' :: rest)).map _ = _
    rw [hitems]
    rfl
  | @object depth ms hordered hms ih =>
    refine (object hordered hms).readsBack_of_succ fun fuel rest hfuel _ => ?_
    rw [text_object, List.length_append, List.length_cons, List.length_singleton] at hfuel
    have hmembers : members fuel depth true [] (separated (memberTexts ms) ++ '\x7d' :: rest) =
        .ok (ms, rest) := members_separated hordered ih rest (by omega)
    rw [text_object, List.cons_append, List.cons_append, List.append_assoc, value]
    change (members fuel depth true [] (separated (memberTexts ms) ++ '\x7d' :: rest)).map _ = _
    rw [hmembers]
    rfl

/-- **A document** of one exact value reads back. -/
theorem ofText_text (hv : Exact maxDepth v) : ofText (text v) = .ok v := by
  have hread := hv.readsBack (2 * (text v).length + 2) [] (by omega) nofun
  rw [List.append_nil] at hread
  rw [ofText, hread]
  rfl

end Json

end RayTally
