/-!
# Numbers in binary64

The non-negative numbers of the IEEE 754 format with 53 binary digits, as a natural significand
times a power of two. Every operation computes the exact quotient of two naturals and rounds it
once, to the nearest number of the format and to an even significand when two are equally near.

The exponent is bounded below, where the format has its subnormal numbers, and not above:
`Binary64.IsFinite` says which values the format holds.

## Main results

* `roundHalfEven_le`, `le_roundHalfEven`: rounding moves a quotient by at most one half.
-/

namespace RayTally

-- Powers of naturals are those of core, whatever else is imported.
attribute [local instance (high)] instPowNat

/-- The natural number nearest to `a / b`; of two equally near ones the even one. -/
def roundHalfEven (a b : Nat) : Nat :=
  let q := a / b
  let r := a % b
  if 2 * r < b then q else if b < 2 * r then q + 1 else q + q % 2

/-- Rounding up moves a quotient by at most one half. -/
theorem roundHalfEven_le (a b : Nat) : 2 * (roundHalfEven a b * b) ≤ 2 * a + b := by
  have h := Nat.div_add_mod a b
  rw [Nat.mul_comm] at h
  simp only [roundHalfEven]
  split
  · omega
  · split
    · rw [Nat.add_mul]; omega
    · rcases Nat.mod_two_eq_zero_or_one (a / b) with e | e <;> rw [e]
      · rw [Nat.add_zero]; omega
      · rw [Nat.add_mul]; omega

/-- Rounding down moves a quotient by at most one half. -/
theorem le_roundHalfEven (a : Nat) {b : Nat} (hb : 0 < b) :
    2 * a ≤ 2 * (roundHalfEven a b * b) + b := by
  have h := Nat.div_add_mod a b
  have hr := Nat.mod_lt a hb
  rw [Nat.mul_comm] at h
  simp only [roundHalfEven]
  split
  · omega
  · split
    · rw [Nat.add_mul]; omega
    · rw [Nat.add_mul]; omega

/-- A **non-negative number of the format**: `significand * 2 ^ exponent`. -/
structure Binary64 where
  significand : Nat
  exponent : Int
  deriving DecidableEq, Repr

namespace Binary64

/-- The least exponent, that of the subnormal numbers. -/
def minExponent : Int := -1074

/-- The largest exponent of a number that the format holds. -/
def maxExponent : Int := 971

/-- The leading digit of a significand with 53 binary digits, `2 ^ 52`. -/
def leadingDigit : Nat := 0x10000000000000

/-- Zero. -/
def zero : Binary64 := ⟨0, minExponent⟩

/-- Whether the format holds the number, which otherwise overflows it. -/
def IsFinite (x : Binary64) : Prop := x.exponent ≤ maxExponent

instance (x : Binary64) : Decidable x.IsFinite := inferInstanceAs (Decidable (_ ≤ _))

/-- The numerator of the number as a quotient of naturals. -/
def num (x : Binary64) : Nat := x.significand * 2 ^ x.exponent.toNat

/-- The denominator of the number as a quotient of naturals. -/
def den (x : Binary64) : Nat := 2 ^ (-x.exponent).toNat

/-- The largest `k` with `2 ^ k ≤ a / b`, for positive `a` and `b`. -/
def logQuotient (a b : Nat) : Int :=
  let k : Int := a.log2 - b.log2
  if b * 2 ^ k.toNat ≤ a * 2 ^ (-k).toNat then k else k - 1

/-- The number of the format nearest to `a / b`. The exponent is chosen so that the significand has
53 binary digits, or is the least one; rounding may carry into a 54th digit. -/
def ofQuotient (a b : Nat) : Binary64 :=
  if a = 0 then zero
  else
    let e := max (logQuotient a b - 52) minExponent
    let m := roundHalfEven (a * 2 ^ (-e).toNat) (b * 2 ^ e.toNat)
    if m = 2 * leadingDigit then ⟨leadingDigit, e + 1⟩ else ⟨m, e⟩

/-- The number of the format nearest to a natural number. -/
def ofNat (n : Nat) : Binary64 := ofQuotient n 1

/-- The **product**, rounded. -/
def mul (x y : Binary64) : Binary64 := ofQuotient (x.num * y.num) (x.den * y.den)

/-- The **quotient**, rounded. -/
def div (x y : Binary64) : Binary64 := ofQuotient (x.num * y.den) (x.den * y.num)

/-- The bits of a number that the format holds: eleven for the exponent and 52 for the significand,
whose leading digit is implied unless the number is subnormal. -/
def toBits (x : Binary64) : Nat :=
  if x.significand < leadingDigit then x.significand
  else (x.exponent - minExponent + 1).toNat * leadingDigit + (x.significand - leadingDigit)

theorem den_pos (x : Binary64) : 0 < x.den := Nat.two_pow_pos _

@[simp] theorem num_zero : zero.num = 0 := by simp [zero, num]

@[simp] theorem ofQuotient_zero (b : Nat) : ofQuotient 0 b = zero := by simp [ofQuotient]

end Binary64

end RayTally
