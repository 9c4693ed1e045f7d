/-!
# Decimal numerals

Naturals are written in decimal without leading zeros. A 64-bit number is read from an optional
plus sign and one or more digits; the first character, from the left, that is no digit or takes the
value past the largest one decides what is reported.

## Main results

* `Decimal.readDigits_digits`: digits written behind others are read onto the value of those.
* `Decimal.readUInt64_digits`: every 64-bit number reads back from its numeral.
-/

namespace RayTally.Decimal

/-- The character of a digit. -/
def digitChar (d : Nat) : Char := Char.ofNat (48 + d)

/-- The value of a decimal digit. -/
def digitValue? (c : Char) : Option Nat :=
  if 48 ≤ c.toNat ∧ c.toNat ≤ 57 then some (c.toNat - 48) else none

/-- The **numeral** of a natural number. -/
def digits (n : Nat) : List Char :=
  if n < 10 then [digitChar n] else digits (n / 10) ++ [digitChar (n % 10)]

/-- The numeral as a string. -/
def text (n : Nat) : String := String.ofList (digits n)

/-- Why a text is not the numeral of a 64-bit number. -/
inductive NumeralError
  | empty
  | invalidDigit
  | tooLarge
  deriving DecidableEq, Repr

/-- The words for what is wrong with a numeral. -/
def NumeralError.message : NumeralError → String
  | empty => "cannot parse integer from empty string"
  | invalidDigit => "invalid digit found in string"
  | tooLarge => "number too large to fit in target type"

/-- Reads digits onto the value `acc`, as long as the value fits into 64 bits. -/
def readDigits : Nat → List Char → Except NumeralError Nat
  | acc, [] => .ok acc
  | acc, c :: cs =>
    match digitValue? c with
    | none => .error .invalidDigit
    | some d =>
      if acc * 10 + d < UInt64.size then readDigits (acc * 10 + d) cs else .error .tooLarge

/-- Reads a 64-bit number: an optional plus sign and at least one digit. -/
def readUInt64 : List Char → Except NumeralError UInt64
  | [] => .error .empty
  | ['+'] => .error .invalidDigit
  | '+' :: cs => (readDigits 0 cs).map Nat.toUInt64
  | cs => (readDigits 0 cs).map Nat.toUInt64

/-! ### Reading what was written -/

theorem digitValue?_digitChar {d : Nat} (h : d < 10) : digitValue? (digitChar d) = some d := by
  match d, h with
  | 0, _ | 1, _ | 2, _ | 3, _ | 4, _ | 5, _ | 6, _ | 7, _ | 8, _ | 9, _ => decide

theorem digits_ne_nil (n : Nat) : digits n ≠ [] := by
  rw [digits]
  split <;> simp

/-- Digits are read from the left, so what follows a prefix is read onto its value. -/
theorem readDigits_append {acc m : Nat} {cs ds : List Char} (h : readDigits acc cs = .ok m) :
    readDigits acc (cs ++ ds) = readDigits m ds := by
  induction cs generalizing acc with
  | nil => cases h; rfl
  | cons c cs ih =>
    simp only [readDigits, List.cons_append] at h ⊢
    split at h
    · cases h
    · rename_i d hd
      split at h
      · rename_i hlt
        simp only [if_pos hlt]
        exact ih h
      · cases h

/-- **Numerals read back**, as long as the number fits. -/
theorem readDigits_digits {n : Nat} (h : n < UInt64.size) : readDigits 0 (digits n) = .ok n := by
  induction n using Nat.strongRecOn with
  | _ n ih =>
    rw [digits]
    split
    · rename_i hn
      simp only [readDigits, digitValue?_digitChar hn, Nat.zero_mul, Nat.zero_add, if_pos h]
    · rename_i hn
      rw [readDigits_append (ih (n / 10) (by omega) (by omega))]
      have hd := digitValue?_digitChar (Nat.mod_lt n (by omega : 10 > 0))
      have hv : n / 10 * 10 + n % 10 = n := by omega
      simp only [readDigits, hd, hv, if_pos h]

/-- A numeral starts with a digit, so with no plus sign. -/
theorem head_digits (n : Nat) : ∃ d, d < 10 ∧ (digits n).head? = some (digitChar d) := by
  induction n using Nat.strongRecOn with
  | _ n ih =>
    rw [digits]
    split
    · rename_i hn
      exact ⟨n, hn, rfl⟩
    · obtain ⟨d, hd, he⟩ := ih (n / 10) (by omega)
      refine ⟨d, hd, ?_⟩
      rw [List.head?_append, he]
      rfl

/-- **Every 64-bit number reads back** from its numeral. -/
theorem readUInt64_digits (n : UInt64) : readUInt64 (digits n.toNat) = .ok n := by
  obtain ⟨d, hd, he⟩ := head_digits n.toNat
  have hr := readDigits_digits n.toNat_lt_size
  cases hds : digits n.toNat with
  | nil => exact absurd hds (digits_ne_nil _)
  | cons c cs =>
    rw [hds] at he hr
    simp only [List.head?_cons, Option.some.injEq] at he
    have hc : c ≠ '+' := by
      rw [he]
      match d, hd with
      | 0, _ | 1, _ | 2, _ | 3, _ | 4, _ | 5, _ | 6, _ | 7, _ | 8, _ | 9, _ => decide
    unfold readUInt64
    split
    · cases ‹c :: cs = []›
    · rename_i h; cases h; exact absurd rfl hc
    · rename_i h; cases h; exact absurd rfl hc
    · rw [hr]; simp [Except.map]

end RayTally.Decimal
