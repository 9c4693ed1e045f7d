/-!
# UTF-8

Texts are lists of characters, stored texts are lists of bytes, and UTF-8 leads from one to the
other. Bytes that are no UTF-8 are refused by `Utf8.decode` and shown by `Utf8.decodeLossy`, which
puts U+FFFD in the place of each maximal part that no character starts with.

## Main results

* `Utf8.next_length_le`: reading a character never gives bytes back.
* `Utf8.encode_append`: the encoding of a text is the encoding of its parts.
-/

namespace RayTally

/-- A sequence of bytes. -/
abbrev Bytes := List UInt8

namespace Utf8

/-- The **bytes of a character**: one to four of them, the payload in groups of six bits. -/
def encodeChar (c : Char) : Bytes :=
  let n := c.toNat
  if n < 0x80 then [n.toUInt8]
  else if n < 0x800 then [(0xC0 + n / 0x40).toUInt8, (0x80 + n % 0x40).toUInt8]
  else if n < 0x10000 then
    [(0xE0 + n / 0x1000).toUInt8, (0x80 + n / 0x40 % 0x40).toUInt8, (0x80 + n % 0x40).toUInt8]
  else
    [(0xF0 + n / 0x40000).toUInt8, (0x80 + n / 0x1000 % 0x40).toUInt8,
      (0x80 + n / 0x40 % 0x40).toUInt8, (0x80 + n % 0x40).toUInt8]

/-- The bytes of a text. -/
def encode (cs : List Char) : Bytes := cs.flatMap encodeChar

/-- Reads `k` continuation bytes onto the payload `acc`. The first of them must lie between `lo`
and `hi`, the later ones between `0x80` and `0xBF`. The second component is what is left: the bytes
after the character, or those from the first one that does not continue it. -/
def continued : Nat → Nat → Nat → Nat → Bytes → Option Char × Bytes
  | 0, acc, _, _, bs => (some (Char.ofNat acc), bs)
  | _ + 1, _, _, _, [] => (none, [])
  | k + 1, acc, lo, hi, b :: bs =>
    if lo ≤ b.toNat ∧ b.toNat ≤ hi then continued k (acc * 0x40 + (b.toNat - 0x80)) 0x80 0xBF bs
    else (none, b :: bs)

/-- Reads the character that starts with the byte `b`. The bounds on the second byte rule out
overlong forms, surrogates and values past U+10FFFF. -/
def next (b : UInt8) (bs : Bytes) : Option Char × Bytes :=
  let n := b.toNat
  if n < 0x80 then (some (Char.ofNat n), bs)
  else if 0xC2 ≤ n ∧ n ≤ 0xDF then continued 1 (n - 0xC0) 0x80 0xBF bs
  else if n = 0xE0 then continued 2 0 0xA0 0xBF bs
  else if n = 0xED then continued 2 0xD 0x80 0x9F bs
  else if 0xE1 ≤ n ∧ n ≤ 0xEF then continued 2 (n - 0xE0) 0x80 0xBF bs
  else if n = 0xF0 then continued 3 0 0x90 0xBF bs
  else if n = 0xF4 then continued 3 4 0x80 0x8F bs
  else if 0xF1 ≤ n ∧ n ≤ 0xF3 then continued 3 (n - 0xF0) 0x80 0xBF bs
  else (none, bs)

theorem continued_length_le (k acc lo hi : Nat) (bs : Bytes) :
    (continued k acc lo hi bs).2.length ≤ bs.length := by
  induction k generalizing acc lo hi bs with
  | zero => simp [continued]
  | succ k ih =>
    cases bs with
    | nil => simp [continued]
    | cons b bs =>
      simp only [continued]
      split
      · exact Nat.le_trans (ih _ _ _ _) (Nat.le_succ _)
      · exact Nat.le_refl _

/-- Reading a character leaves at most the bytes that followed its first one. -/
theorem next_length_le (b : UInt8) (bs : Bytes) : (next b bs).2.length ≤ bs.length := by
  simp only [next]
  repeat' split
  all_goals first | exact Nat.le_refl _ | exact continued_length_le _ _ _ _ _

/-- The text that bytes stand for, if they are UTF-8. -/
def decode : Bytes → Option (List Char)
  | [] => some []
  | b :: bs =>
    match (next b bs).1 with
    | some c => (decode (next b bs).2).map (c :: ·)
    | none => none
termination_by bs => bs.length
decreasing_by
  exact Nat.lt_succ_of_le (next_length_le b bs)

/-- The text shown for bytes that need not be UTF-8. -/
def decodeLossy : Bytes → List Char
  | [] => []
  | b :: bs => (next b bs).1.getD '\uFFFD' :: decodeLossy (next b bs).2
termination_by bs => bs.length
decreasing_by
  exact Nat.lt_succ_of_le (next_length_le b bs)

theorem encode_nil : encode [] = [] := rfl

theorem encode_cons (c : Char) (cs : List Char) : encode (c :: cs) = encodeChar c ++ encode cs := by
  simp [encode]

/-- Encoding goes character by character. -/
theorem encode_append (cs ds : List Char) : encode (cs ++ ds) = encode cs ++ encode ds := by
  simp [encode]

/-- The bytes of a string. -/
def ofString (s : String) : Bytes := encode s.toList

end Utf8

end RayTally
