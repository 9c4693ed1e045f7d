import Mathlib.Data.Char
import Mathlib.Data.List.Basic
import RayTally.Text.Utf8

/-!
# Encoding and decoding are inverse

`Utf8.encode` and `Utf8.decode` are written independently of one another: one computes the bytes of
a character from its number, the other tells from the first byte how many bytes to read and within
which bounds. This module shows that they are inverse, so a sequence of bytes is UTF-8 exactly if it
is the encoding of a text, and of one text only.

## Main results

* `Utf8.encodeChar_eq`: the bytes of a character are those of the standard library's encoding.
* `Utf8.next_encodeChar` / `Utf8.encodeChar_of_next`: a character is read off exactly its own bytes.
* `Utf8.decode_eq_some_iff`: the two directions packaged as an equivalence.
* `Utf8.prefix_of_encode`: the bytes of a text start with those of another only if the text does.
* `Utf8.mem_encode_ascii`: a byte below `0x80` stands for itself and for nothing else.
* `Utf8.decode_append_ascii`: such a byte at the end never decides on whether the rest is UTF-8.
-/

namespace RayTally

namespace Utf8

/-! ### Characters and their numbers -/

/-- The number of a character is no surrogate and at most `0x10FFFF`. -/
theorem toNat_bounds (c : Char) :
    c.toNat < 0xD800 ∨ 0xDFFF < c.toNat ∧ c.toNat < 0x110000 := by
  rcases c.valid with h | h
  · exact .inl h
  · exact .inr h

/-- A number within these bounds is that of its character. -/
theorem toNat_ofNat {n : Nat} (h : n < 0xD800 ∨ 0xDFFF < n ∧ n < 0x110000) :
    (Char.ofNat n).toNat = n := by
  have hv : n.isValidChar := h
  rw [Char.ofNat, dif_pos hv]
  rfl

theorem toNat_toUInt8 {n : Nat} (h : n < 256) : n.toUInt8.toNat = n := by
  simp [Nat.toUInt8, Nat.mod_eq_of_lt h]

theorem toUInt8_eq {n : Nat} {b : UInt8} (h : n = b.toNat) : n.toUInt8 = b := by
  subst h
  simp [Nat.toUInt8]

/-- **The encoding is the usual one**: that of the standard library. -/
theorem encodeChar_eq (c : Char) : encodeChar c = String.utf8EncodeChar c := by
  have hc := toNat_bounds c
  have hn : c.val.toNat = c.toNat := rfl
  simp only [encodeChar, String.utf8EncodeChar, Nat.toUInt8, hn]
  rcases Nat.lt_or_ge c.toNat 0x80 with h1 | h1
  · rw [if_pos h1, if_pos (show c.toNat ≤ 0x7F by omega)]
  rw [if_neg (show ¬c.toNat < 0x80 by omega), if_neg (show ¬c.toNat ≤ 0x7F by omega)]
  rcases Nat.lt_or_ge c.toNat 0x800 with h2 | h2
  · rw [if_pos h2, if_pos (show c.toNat ≤ 0x7FF by omega),
      Nat.mod_eq_of_lt (show c.toNat / 64 < 32 by omega)]
    simp only [Nat.add_comm]
  rw [if_neg (show ¬c.toNat < 0x800 by omega), if_neg (show ¬c.toNat ≤ 0x7FF by omega)]
  rcases Nat.lt_or_ge c.toNat 0x10000 with h3 | h3
  · rw [if_pos h3, if_pos (show c.toNat ≤ 0xFFFF by omega),
      Nat.mod_eq_of_lt (show c.toNat / 4096 < 16 by omega)]
    simp only [Nat.add_comm]
  · rw [if_neg (show ¬c.toNat < 0x10000 by omega), if_neg (show ¬c.toNat ≤ 0xFFFF by omega),
      Nat.mod_eq_of_lt (show c.toNat / 262144 < 8 by omega)]
    simp only [Nat.add_comm]

/-! ### Continuation bytes -/

theorem continued_zero (acc lo hi : Nat) (bs : Bytes) :
    continued 0 acc lo hi bs = (some (Char.ofNat acc), bs) := rfl

/-- A byte within the bounds adds six bits to the payload. -/
theorem continued_toUInt8 {k acc lo hi n : Nat} (bs : Bytes) (hn : n < 256) (hl : lo ≤ n)
    (hh : n ≤ hi) :
    continued (k + 1) acc lo hi (n.toUInt8 :: bs) =
      continued k (acc * 0x40 + (n - 0x80)) 0x80 0xBF bs := by
  simp only [continued, toNat_toUInt8 hn, if_pos (And.intro hl hh)]

/-- Inversion of a continuation that leads to a character. -/
theorem continued_succ_inv {k acc lo hi : Nat} {bs rest : Bytes} {c : Char}
    (h : continued (k + 1) acc lo hi bs = (some c, rest)) :
    ∃ b bs', bs = b :: bs' ∧ lo ≤ b.toNat ∧ b.toNat ≤ hi ∧
      continued k (acc * 0x40 + (b.toNat - 0x80)) 0x80 0xBF bs' = (some c, rest) := by
  cases bs with
  | nil => cases h
  | cons b bs' =>
    simp only [continued] at h
    split at h
    · rename_i hb
      exact ⟨b, bs', rfl, hb.1, hb.2, h⟩
    · cases h

theorem continued_zero_inv {acc lo hi : Nat} {bs rest : Bytes} {c : Char}
    (h : continued 0 acc lo hi bs = (some c, rest)) : Char.ofNat acc = c ∧ bs = rest := by
  rw [continued_zero, Prod.mk.injEq, Option.some.injEq] at h
  exact h

/-! ### Reading one character -/

/-- **A character is read off its bytes**, whatever follows them. -/
theorem next_encodeChar (c : Char) :
    ∃ b bs, encodeChar c = b :: bs ∧ ∀ rest, next b (bs ++ rest) = (some c, rest) := by
  have hc := toNat_bounds c
  have hv : ∀ n, n = c.toNat → some (Char.ofNat n) = some c := by
    rintro _ rfl
    rw [Char.ofNat_toNat]
  simp only [encodeChar]
  split
  · rename_i h
    refine ⟨_, _, rfl, fun rest => ?_⟩
    simp only [next, toNat_toUInt8 (show c.toNat < 256 by omega), List.nil_append, if_pos h,
      Char.ofNat_toNat]
  split
  · refine ⟨_, _, rfl, fun rest => ?_⟩
    simp only [next, List.cons_append, List.nil_append]
    rw [toNat_toUInt8 (by omega), if_neg (by omega), if_pos (by omega),
      continued_toUInt8 _ (by omega) (by omega) (by omega), continued_zero, hv _ (by omega)]
  split
  · refine ⟨_, _, rfl, fun rest => ?_⟩
    simp only [next, List.cons_append, List.nil_append]
    rw [toNat_toUInt8 (by omega), if_neg (by omega), if_neg (by omega)]
    split
    · rw [continued_toUInt8 _ (by omega) (by omega) (by omega),
        continued_toUInt8 _ (by omega) (by omega) (by omega), continued_zero, hv _ (by omega)]
    split
    · rw [continued_toUInt8 _ (by omega) (by omega) (by omega),
        continued_toUInt8 _ (by omega) (by omega) (by omega), continued_zero, hv _ (by omega)]
    · rw [if_pos (by omega), continued_toUInt8 _ (by omega) (by omega) (by omega),
        continued_toUInt8 _ (by omega) (by omega) (by omega), continued_zero, hv _ (by omega)]
  · refine ⟨_, _, rfl, fun rest => ?_⟩
    simp only [next, List.cons_append, List.nil_append]
    rw [toNat_toUInt8 (by omega), if_neg (by omega), if_neg (by omega), if_neg (by omega),
      if_neg (by omega), if_neg (by omega)]
    split
    · rw [continued_toUInt8 _ (by omega) (by omega) (by omega),
        continued_toUInt8 _ (by omega) (by omega) (by omega),
        continued_toUInt8 _ (by omega) (by omega) (by omega), continued_zero, hv _ (by omega)]
    split
    · rw [continued_toUInt8 _ (by omega) (by omega) (by omega),
        continued_toUInt8 _ (by omega) (by omega) (by omega),
        continued_toUInt8 _ (by omega) (by omega) (by omega), continued_zero, hv _ (by omega)]
    · rw [if_pos (by omega), continued_toUInt8 _ (by omega) (by omega) (by omega),
        continued_toUInt8 _ (by omega) (by omega) (by omega),
        continued_toUInt8 _ (by omega) (by omega) (by omega), continued_zero, hv _ (by omega)]

/-- One byte, read back. -/
theorem encodeChar_one {b : UInt8} (hb : b.toNat < 0x80) :
    encodeChar (Char.ofNat b.toNat) = [b] := by
  simp only [encodeChar, toNat_ofNat (show b.toNat < 0xD800 ∨ _ by omega), if_pos hb]
  rw [toUInt8_eq rfl]

/-- Two bytes, read back. -/
theorem encodeChar_two {b : UInt8} {bs rest : Bytes} {c : Char} (hl : 0xC2 ≤ b.toNat)
    (hh : b.toNat ≤ 0xDF) (h : continued 1 (b.toNat - 0xC0) 0x80 0xBF bs = (some c, rest)) :
    b :: bs = encodeChar c ++ rest := by
  obtain ⟨d, bs, rfl, hdl, hdh, h⟩ := continued_succ_inv h
  obtain ⟨rfl, rfl⟩ := continued_zero_inv h
  have hv := toNat_ofNat (n := (b.toNat - 0xC0) * 0x40 + (d.toNat - 0x80)) (by omega)
  simp only [encodeChar, hv]
  rw [if_neg (by omega), if_pos (by omega), toUInt8_eq (b := b) (by omega),
    toUInt8_eq (b := d) (by omega)]
  rfl

/-- Three bytes, read back. The bounds on the second byte must rule out overlong forms and
surrogates. -/
theorem encodeChar_three {acc lo hi : Nat} {b : UInt8} {bs rest : Bytes} {c : Char}
    (hb : b.toNat = 0xE0 + acc) (hlo : 0x80 ≤ lo) (hhi : hi ≤ 0xBF) (hacc : acc < 0x10)
    (hlong : 0x20 ≤ acc * 0x40 + (lo - 0x80))
    (hsur : acc * 0x40 + (hi - 0x80) < 0x360 ∨ 0x380 ≤ acc * 0x40 + (lo - 0x80))
    (h : continued 2 acc lo hi bs = (some c, rest)) : b :: bs = encodeChar c ++ rest := by
  obtain ⟨d, bs, rfl, hdl, hdh, h⟩ := continued_succ_inv h
  obtain ⟨e, bs, rfl, hel, heh, h⟩ := continued_succ_inv h
  obtain ⟨rfl, rfl⟩ := continued_zero_inv h
  have hv := toNat_ofNat
    (n := (acc * 0x40 + (d.toNat - 0x80)) * 0x40 + (e.toNat - 0x80)) (by omega)
  simp only [encodeChar, hv]
  rw [if_neg (by omega), if_neg (by omega), if_pos (by omega), toUInt8_eq (b := b) (by omega),
    toUInt8_eq (b := d) (by omega), toUInt8_eq (b := e) (by omega)]
  rfl

/-- Four bytes, read back. The bounds on the second byte must rule out overlong forms and numbers
past `0x10FFFF`. -/
theorem encodeChar_four {acc lo hi : Nat} {b : UInt8} {bs rest : Bytes} {c : Char}
    (hb : b.toNat = 0xF0 + acc) (hlo : 0x80 ≤ lo) (hhi : hi ≤ 0xBF)
    (hlong : 0x10 ≤ acc * 0x40 + (lo - 0x80)) (hlarge : acc * 0x40 + (hi - 0x80) < 0x110)
    (h : continued 3 acc lo hi bs = (some c, rest)) : b :: bs = encodeChar c ++ rest := by
  obtain ⟨d, bs, rfl, hdl, hdh, h⟩ := continued_succ_inv h
  obtain ⟨e, bs, rfl, hel, heh, h⟩ := continued_succ_inv h
  obtain ⟨f, bs, rfl, hfl, hfh, h⟩ := continued_succ_inv h
  obtain ⟨rfl, rfl⟩ := continued_zero_inv h
  have hv := toNat_ofNat (n := ((acc * 0x40 + (d.toNat - 0x80)) * 0x40 + (e.toNat - 0x80)) * 0x40 +
    (f.toNat - 0x80)) (by omega)
  simp only [encodeChar, hv]
  rw [if_neg (by omega), if_neg (by omega), if_neg (by omega), toUInt8_eq (b := b) (by omega),
    toUInt8_eq (b := d) (by omega), toUInt8_eq (b := e) (by omega), toUInt8_eq (b := f) (by omega)]
  rfl

/-- **What is read as a character is its bytes.** -/
theorem encodeChar_of_next {b : UInt8} {bs rest : Bytes} {c : Char}
    (h : next b bs = (some c, rest)) : b :: bs = encodeChar c ++ rest := by
  simp only [next] at h
  split at h
  · rename_i hb
    rw [Prod.mk.injEq, Option.some.injEq] at h
    obtain ⟨rfl, rfl⟩ := h
    rw [encodeChar_one hb]
    rfl
  split at h
  · rename_i hb
    exact encodeChar_two hb.1 hb.2 h
  split at h
  · exact encodeChar_three (by omega) (by omega) (by omega) (by omega) (by omega) (by omega) h
  split at h
  · exact encodeChar_three (by omega) (by omega) (by omega) (by omega) (by omega) (by omega) h
  split at h
  · exact encodeChar_three (by omega) (by omega) (by omega) (by omega) (by omega) (by omega) h
  split at h
  · exact encodeChar_four (by omega) (by omega) (by omega) (by omega) (by omega) h
  split at h
  · exact encodeChar_four (by omega) (by omega) (by omega) (by omega) (by omega) h
  split at h
  · exact encodeChar_four (by omega) (by omega) (by omega) (by omega) (by omega) h
  · cases h

/-! ### Texts -/

/-- **What is encoded is decoded.** -/
theorem decode_encode (cs : List Char) : decode (encode cs) = some cs := by
  induction cs with
  | nil => rw [encode_nil, decode]
  | cons c cs ih =>
    obtain ⟨b, bs, hb, hnext⟩ := next_encodeChar c
    rw [encode_cons, hb, List.cons_append, decode, hnext]
    simp only [ih, Option.map_some]

/-- What is decoded was encoded. -/
theorem encode_of_decode {bs : Bytes} {cs : List Char} (h : decode bs = some cs) :
    encode cs = bs := by
  induction bs using decode.induct generalizing cs with
  | case1 =>
    rw [decode, Option.some.injEq] at h
    rw [← h, encode_nil]
  | case2 b bs c hc ih =>
    rw [decode, hc] at h
    simp only [Option.map_eq_some_iff] at h
    obtain ⟨ds, hds, rfl⟩ := h
    rw [encode_cons, ih hds, ← encodeChar_of_next (Prod.ext hc rfl)]
  | case3 b bs hc =>
    rw [decode, hc] at h
    cases h

/-- **UTF-8 is what is encoded**: bytes stand for a text exactly if they are its encoding. -/
theorem decode_eq_some_iff {bs : Bytes} {cs : List Char} : decode bs = some cs ↔ encode cs = bs :=
  ⟨encode_of_decode, fun h => h ▸ decode_encode cs⟩

/-- Different texts have different encodings. -/
theorem encode_injective {cs ds : List Char} (h : encode cs = encode ds) : cs = ds := by
  have hd := decode_encode cs
  rw [h, decode_encode] at hd
  exact (Option.some.inj hd).symm

/-- UTF-8 is a prefix code: **the bytes of a text start with those of another** only if the text
itself does. -/
theorem prefix_of_encode {cs ds : List Char} (h : encode cs <+: encode ds) : cs <+: ds := by
  induction cs generalizing ds with
  | nil => exact List.nil_prefix
  | cons c cs ih =>
    obtain ⟨rest, hrest⟩ := h
    obtain ⟨b, bs, hb, hnext⟩ := next_encodeChar c
    cases ds with
    | nil =>
      rw [encode_cons, hb] at hrest
      cases hrest
    | cons d ds =>
      obtain ⟨b', bs', hb', hnext'⟩ := next_encodeChar d
      rw [encode_cons, encode_cons, hb, hb', List.append_assoc, List.cons_append, List.cons_append,
        List.cons.injEq] at hrest
      obtain ⟨rfl, hrest⟩ := hrest
      have hread := hnext (encode cs ++ rest)
      rw [hrest, hnext'] at hread
      obtain ⟨hchar, htail⟩ := Prod.mk.inj hread
      obtain rfl := Option.some.inj hchar
      exact (List.prefix_cons_inj _).mpr (ih ⟨rest, htail.symm⟩)

/-! ### Bytes below `0x80` -/

/-- Characters below `0x80` are one byte each. -/
theorem length_encode_of_ascii {cs : List Char} (h : ∀ c ∈ cs, c.toNat < 0x80) :
    (encode cs).length = cs.length := by
  induction cs with
  | nil => rfl
  | cons c cs ih =>
    rw [List.forall_mem_cons] at h
    rw [encode_cons, List.length_append, ih h.2, encodeChar, if_pos h.1, List.length_singleton,
      List.length_cons, Nat.add_comm]

/-- A character below `0x80` is one byte, and no other character has that byte. -/
theorem mem_encodeChar_ascii {b : UInt8} (hb : b.toNat < 0x80) {c : Char}
    (h : b ∈ encodeChar c) : encodeChar c = [b] ∧ c = Char.ofNat b.toNat := by
  have hc := toNat_bounds c
  simp only [encodeChar] at h ⊢
  split at h
  · rename_i hlt
    rw [if_pos hlt]
    obtain rfl := List.mem_singleton.mp h
    rw [toNat_toUInt8 (by omega), Char.ofNat_toNat]
    exact ⟨rfl, rfl⟩
  all_goals
    exfalso
    have hbig : ∀ n, 0x80 ≤ n → n < 256 → b ≠ n.toUInt8 := by
      rintro n hl hh rfl
      rw [toNat_toUInt8 hh] at hb
      omega
  split at h
  · simp only [List.mem_cons, List.not_mem_nil, or_false] at h
    rcases h with h | h <;> exact hbig _ (by omega) (by omega) h
  split at h
  · simp only [List.mem_cons, List.not_mem_nil, or_false] at h
    rcases h with h | h | h <;> exact hbig _ (by omega) (by omega) h
  · simp only [List.mem_cons, List.not_mem_nil, or_false] at h
    rcases h with h | h | h | h <;> exact hbig _ (by omega) (by omega) h

/-- A byte below `0x80` **stands for itself** wherever it occurs. -/
theorem mem_encode_ascii {b : UInt8} (hb : b.toNat < 0x80) {cs : List Char} :
    b ∈ encode cs ↔ Char.ofNat b.toNat ∈ cs := by
  rw [encode, List.mem_flatMap]
  constructor
  · rintro ⟨c, hc, hbc⟩
    rw [← (mem_encodeChar_ascii hb hbc).2]
    exact hc
  · intro hc
    refine ⟨_, hc, ?_⟩
    rw [encodeChar_one hb]
    exact List.mem_singleton.mpr rfl

/-- What ends in a byte below `0x80` is the encoding of a text that ends in its character. -/
theorem encode_eq_append_ascii {b : UInt8} (hb : b.toNat < 0x80) {cs : List Char} {bs : Bytes}
    (h : encode cs = bs ++ [b]) : ∃ ds, cs = ds ++ [Char.ofNat b.toNat] ∧ encode ds = bs := by
  rcases List.eq_nil_or_concat' cs with rfl | ⟨ds, d, rfl⟩
  · simp [encode_nil] at h
  obtain ⟨a, as, ha, -⟩ := next_encodeChar d
  have hlast : b ∈ encodeChar d := by
    have hl := congrArg List.getLast? h
    rw [encode_append, encode_cons, encode_nil, List.append_nil, ha,
      List.getLast?_append_of_ne_nil _ (List.cons_ne_nil a as), List.getLast?_concat, ← ha] at hl
    exact List.mem_of_getLast? hl
  obtain ⟨hd, rfl⟩ := mem_encodeChar_ascii hb hlast
  refine ⟨ds, rfl, ?_⟩
  rw [encode_append, encode_cons, encode_nil, List.append_nil, hd] at h
  exact List.append_cancel_right h

/-- **A byte below `0x80` at the end** is decoded on its own. -/
theorem decode_append_ascii {b : UInt8} (hb : b.toNat < 0x80) (bs : Bytes) :
    decode (bs ++ [b]) = (decode bs).map (· ++ [Char.ofNat b.toNat]) := by
  cases hd : decode bs with
  | some cs =>
    rw [Option.map_some, decode_eq_some_iff, encode_append, encode_of_decode hd, encode_cons,
      encodeChar_one hb]
    rfl
  | none =>
    rw [Option.map_none, Option.eq_none_iff_forall_ne_some]
    intro cs hcs
    obtain ⟨ds, -, hds⟩ := encode_eq_append_ascii hb (encode_of_decode hcs)
    rw [← decode_eq_some_iff, hd] at hds
    cases hds

end Utf8

end RayTally
