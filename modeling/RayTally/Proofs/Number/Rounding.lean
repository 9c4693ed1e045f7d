import Mathlib.Algebra.Order.Field.Power
import Mathlib.Data.Rat.Cast.Order
import Mathlib.Tactic.FieldSimp
import Mathlib.Tactic.Linarith
import Mathlib.Tactic.NormNum
import Mathlib.Tactic.Positivity
import Mathlib.Tactic.Ring
import RayTally.Number.Binary64

/-!
# Rounding in binary64

The value of a number of the format is a rational, and every operation rounds the exact result once.
In the normal range rounding changes a number by at most a factor `1 - roundoff` either way, where
`roundoff` is `2 ^ -53`. Two rationals agree up to so many roundings if so many factors make up for
what they differ by. Agreement is kept by products and quotients, which add up the roundings, so
what comes of several operations is found by counting them.

The bits of a number are read back by the rules of the format: a sign, eleven bits of exponent and
52 of the significand, with the largest exponent kept for infinities and for what is no number.

## Main results

* `Binary64.logQuotient_spec`: the exponent of a quotient.
* `Binary64.abs_value_ofQuotient_sub_le`: rounding moves a quotient by half a last place at most.
* `Binary64.agree_ofQuotient`: in the normal range that is one rounding.
* `Binary64.isCanonical_ofQuotient`: what rounding gives is in the form that the format has for it.
* `Binary64.ofBits?_toBits`: the bits of a number stand for its value.
-/

namespace RayTally

/-- A power of two as the quotient of two powers with natural exponents. -/
theorem two_pow_toNat_div (e : ℤ) : (2 : ℚ) ^ e.toNat / 2 ^ (-e).toNat = 2 ^ e := by
  rcases le_total 0 e with he | he
  · obtain ⟨n, rfl⟩ := Int.eq_ofNat_of_zero_le he
    simp
  · obtain ⟨n, hn⟩ := Int.eq_ofNat_of_zero_le (neg_nonneg.mpr he)
    obtain rfl : e = -(n : ℤ) := by omega
    simp

namespace Binary64

variable {a b n m : ℕ} {x y : Binary64} {p q p' q' r : ℚ}

/-- The **value** of a number. -/
def value (x : Binary64) : ℚ := x.significand * 2 ^ x.exponent

theorem value_zero : zero.value = 0 := by
  simp [value, zero]

theorem value_nonneg (x : Binary64) : 0 ≤ x.value := by
  rw [value]
  positivity

/-- The value of a number as the quotient that operations take it for. -/
theorem num_div_den (x : Binary64) : (x.num : ℚ) / x.den = x.value := by
  rw [value, ← two_pow_toNat_div, num, den]
  push_cast
  ring

/-! ### The exponent of a quotient -/

/-- A natural number is between the powers of two that its logarithm says. -/
theorem log2_spec (ha : 0 < a) : (2 : ℚ) ^ (a.log2 : ℤ) ≤ a ∧ (a : ℚ) < 2 ^ (a.log2 + 1 : ℤ) := by
  constructor
  · rw [zpow_natCast]
    exact_mod_cast Nat.log2_self_le ha.ne'
  · have hlt : a < 2 ^ (a.log2 + 1) := Nat.lt_log2_self
    exact_mod_cast hlt

/-- **The exponent of a quotient** is that of the largest power of two which is not above it. -/
theorem logQuotient_spec (ha : 0 < a) (hb : 0 < b) :
    (2 : ℚ) ^ logQuotient a b ≤ a / b ∧ (a / b : ℚ) < 2 ^ (logQuotient a b + 1) := by
  have ha' : (0 : ℚ) < a := Nat.cast_pos.mpr ha
  have hb' : (0 : ℚ) < b := Nat.cast_pos.mpr hb
  obtain ⟨hlowa, hhigha⟩ := log2_spec ha
  obtain ⟨hlowb, hhighb⟩ := log2_spec hb
  obtain ⟨k, hk⟩ : ∃ k : ℤ, k = a.log2 - b.log2 := ⟨_, rfl⟩
  have htest : b * 2 ^ k.toNat ≤ a * 2 ^ (-k).toNat ↔ (2 : ℚ) ^ k ≤ a / b := by
    rw [← two_pow_toNat_div, div_le_div_iff₀ (by positivity) hb', mul_comm]
    exact_mod_cast Iff.rfl
  have hhigh : (a / b : ℚ) < 2 ^ (k + 1) := by
    rw [div_lt_iff₀ hb']
    calc (a : ℚ) < 2 ^ (a.log2 + 1 : ℤ) := hhigha
      _ = 2 ^ (k + 1) * 2 ^ (b.log2 : ℤ) := by
        rw [← zpow_add₀ two_ne_zero, hk]
        congr 1
        ring
      _ ≤ 2 ^ (k + 1) * b := by gcongr
  have hlow : (2 : ℚ) ^ (k - 1) ≤ a / b := by
    rw [le_div_iff₀ hb']
    calc (2 : ℚ) ^ (k - 1) * b ≤ 2 ^ (k - 1) * 2 ^ (b.log2 + 1 : ℤ) := by gcongr
      _ = 2 ^ (a.log2 : ℤ) := by
        rw [← zpow_add₀ two_ne_zero, hk]
        congr 1
        ring
      _ ≤ a := hlowa
  rw [logQuotient, ← hk]
  split
  · rename_i h
    exact ⟨htest.mp h, hhigh⟩
  · rename_i h
    rw [sub_add_cancel]
    exact ⟨hlow, lt_of_not_ge fun hle => h (htest.mpr hle)⟩

/-! ### Rounding a quotient -/

/-- **Rounding** moves a quotient of naturals by at most one half. -/
theorem abs_roundHalfEven_sub_le (a : ℕ) (hb : 0 < b) :
    |(roundHalfEven a b : ℚ) - a / b| ≤ 1 / 2 := by
  have hb' : (0 : ℚ) < b := Nat.cast_pos.mpr hb
  have hup : (2 * (roundHalfEven a b * b) : ℚ) ≤ 2 * a + b := by exact_mod_cast roundHalfEven_le a b
  have hdown : (2 * a : ℚ) ≤ 2 * (roundHalfEven a b * b) + b := by
    exact_mod_cast le_roundHalfEven a hb
  have hdiv : (a / b : ℚ) * b = a := div_mul_cancel₀ _ hb'.ne'
  rw [abs_le]
  constructor
  · refine le_of_mul_le_mul_right ?_ hb'
    rw [sub_mul, hdiv]
    linarith
  · refine le_of_mul_le_mul_right ?_ hb'
    rw [sub_mul, hdiv]
    linarith

/-- The exponent to which a quotient is rounded. -/
def roundingExponent (a b : ℕ) : ℤ := max (logQuotient a b - 52) minExponent

/-- **Rounding a quotient**: the significand is the natural number nearest to the quotient in units
of the last place, whose power of two is the exponent. -/
theorem exists_ofQuotient (ha : 0 < a) (hb : 0 < b) : ∃ m : ℕ,
    |(m : ℚ) - a / b / 2 ^ roundingExponent a b| ≤ 1 / 2 ∧
      (ofQuotient a b).value = m * 2 ^ roundingExponent a b ∧
      (m = 2 * leadingDigit ∧ ofQuotient a b = ⟨leadingDigit, roundingExponent a b + 1⟩ ∨
        m ≠ 2 * leadingDigit ∧ ofQuotient a b = ⟨m, roundingExponent a b⟩) := by
  obtain ⟨e, he⟩ : ∃ e, e = roundingExponent a b := ⟨_, rfl⟩
  obtain ⟨m, hm⟩ : ∃ m, m = roundHalfEven (a * 2 ^ (-e).toNat) (b * 2 ^ e.toNat) := ⟨_, rfl⟩
  have hof : ofQuotient a b = if m = 2 * leadingDigit then ⟨leadingDigit, e + 1⟩ else ⟨m, e⟩ := by
    rw [ofQuotient, if_neg ha.ne', hm, he]
    rfl
  have hquotient : (a * 2 ^ (-e).toNat : ℕ) / (b * 2 ^ e.toNat : ℕ) = (a / b / 2 ^ e : ℚ) := by
    rw [← two_pow_toNat_div e]
    push_cast
    field_simp
  have hround := abs_roundHalfEven_sub_le (a * 2 ^ (-e).toNat)
    (Nat.mul_pos hb (Nat.two_pow_pos e.toNat))
  rw [← hm, hquotient] at hround
  rw [← he, hof]
  refine ⟨m, hround, ?_, ?_⟩
  · split
    · rename_i hcarry
      rw [value, hcarry, zpow_add₀ two_ne_zero, zpow_one]
      push_cast
      ring
    · rfl
  · split
    · rename_i hcarry
      exact .inl ⟨hcarry, rfl⟩
    · rename_i hcarry
      exact .inr ⟨hcarry, rfl⟩

/-- **Rounding a quotient** moves it by half a unit of the last place at most. -/
theorem abs_value_ofQuotient_sub_le (ha : 0 < a) (hb : 0 < b) :
    |(ofQuotient a b).value - a / b| ≤ 2 ^ roundingExponent a b / 2 := by
  obtain ⟨m, hround, hvalue, -⟩ := exists_ofQuotient ha hb
  have hunit : (0 : ℚ) < 2 ^ roundingExponent a b := by positivity
  calc |(ofQuotient a b).value - a / b|
      = |(m - a / b / 2 ^ roundingExponent a b : ℚ)| * 2 ^ roundingExponent a b := by
        rw [hvalue, ← abs_of_pos hunit, ← abs_mul, abs_of_pos hunit, sub_mul,
          div_mul_cancel₀ _ hunit.ne']
    _ ≤ 1 / 2 * 2 ^ roundingExponent a b := by gcongr
    _ = 2 ^ roundingExponent a b / 2 := by ring

/-! ### Agreement up to roundings -/

/-- By how much of a number one rounding changes it, at most. -/
def roundoff : ℚ := 1 / 2 ^ 53

/-- Two rationals **agree up to `n` roundings** if neither is less than the other one by more than
`n` factors. -/
def Agree (n : ℕ) (p q : ℚ) : Prop := q * (1 - roundoff) ^ n ≤ p ∧ p * (1 - roundoff) ^ n ≤ q

theorem one_sub_roundoff_pos : 0 < 1 - roundoff := by
  norm_num [roundoff]

theorem one_sub_roundoff_le_one : 1 - roundoff ≤ 1 := by
  norm_num [roundoff]

/-- More roundings leave more room. -/
theorem Agree.mono (h : Agree n p q) (hp : 0 ≤ p) (hq : 0 ≤ q) (hnm : n ≤ m) : Agree m p q := by
  have hpow : (1 - roundoff) ^ m ≤ (1 - roundoff) ^ n :=
    pow_le_pow_of_le_one one_sub_roundoff_pos.le one_sub_roundoff_le_one hnm
  exact ⟨(mul_le_mul_of_nonneg_left hpow hq).trans h.1,
    (mul_le_mul_of_nonneg_left hpow hp).trans h.2⟩

/-- Roundings after one another **add up**. -/
theorem Agree.trans (h : Agree n p q) (h' : Agree m q r) : Agree (n + m) p r := by
  have hn := pow_nonneg one_sub_roundoff_pos.le n
  have hm := pow_nonneg one_sub_roundoff_pos.le m
  constructor
  · calc r * (1 - roundoff) ^ (n + m) = r * (1 - roundoff) ^ m * (1 - roundoff) ^ n := by ring
      _ ≤ q * (1 - roundoff) ^ n := by gcongr; exact h'.1
      _ ≤ p := h.1
  · calc p * (1 - roundoff) ^ (n + m) = p * (1 - roundoff) ^ n * (1 - roundoff) ^ m := by ring
      _ ≤ q * (1 - roundoff) ^ m := by gcongr; exact h.2
      _ ≤ r := h'.2

/-- The roundings of two factors add up in their **product**. -/
theorem Agree.mul (h : Agree n p q) (h' : Agree m p' q') (hp : 0 ≤ p) (hq : 0 ≤ q) (hp' : 0 ≤ p')
    (hq' : 0 ≤ q') : Agree (n + m) (p * p') (q * q') := by
  have hm := pow_nonneg one_sub_roundoff_pos.le m
  constructor
  · calc q * q' * (1 - roundoff) ^ (n + m)
        = q * (1 - roundoff) ^ n * (q' * (1 - roundoff) ^ m) := by ring
      _ ≤ p * p' := mul_le_mul h.1 h'.1 (mul_nonneg hq' hm) hp
  · calc p * p' * (1 - roundoff) ^ (n + m)
        = p * (1 - roundoff) ^ n * (p' * (1 - roundoff) ^ m) := by ring
      _ ≤ q * q' := mul_le_mul h.2 h'.2 (mul_nonneg hp' hm) hq

/-- The roundings of a divisor are those of what it divides by. -/
theorem Agree.inv (h : Agree n p q) (hp : 0 < p) (hq : 0 < q) : Agree n p⁻¹ q⁻¹ := by
  constructor
  · rw [inv_mul_le_iff₀ hq, ← div_eq_mul_inv, le_div_iff₀ hp, mul_comm]
    exact h.2
  · rw [inv_mul_le_iff₀ hp, ← div_eq_mul_inv, le_div_iff₀ hq, mul_comm]
    exact h.1

/-- The roundings of two numbers add up in their **quotient**. -/
theorem Agree.div (h : Agree n p q) (h' : Agree m p' q') (hp : 0 ≤ p) (hq : 0 ≤ q) (hp' : 0 < p')
    (hq' : 0 < q') : Agree (n + m) (p / p') (q / q') := by
  rw [div_eq_mul_inv, div_eq_mul_inv]
  exact h.mul (h'.inv hp' hq') hp hq (inv_nonneg.mpr hp'.le) (inv_nonneg.mpr hq'.le)

/-- No number of roundings takes all of a number away. -/
theorem Agree.pos (h : Agree n p q) (hq : 0 < q) : 0 < p :=
  (mul_pos hq (pow_pos one_sub_roundoff_pos n)).trans_le h.1

/-- A few roundings take less than half of a number away. -/
theorem Agree.half_le (h : Agree n p q) (hq : 0 ≤ q) (hn : n ≤ 5) : q / 2 ≤ p := by
  have hpow : (1 / 2 : ℚ) ≤ (1 - roundoff) ^ n :=
    calc (1 / 2 : ℚ) ≤ (1 - roundoff) ^ 5 := by norm_num [roundoff]
      _ ≤ (1 - roundoff) ^ n :=
        pow_le_pow_of_le_one one_sub_roundoff_pos.le one_sub_roundoff_le_one hn
  calc q / 2 = q * (1 / 2) := by ring
    _ ≤ q * (1 - roundoff) ^ n := by gcongr
    _ ≤ p := h.1

/-- **A few roundings** change a number by less than eight times the share of one. -/
theorem Agree.abs_sub_le (h : Agree n p q) (hp : 0 ≤ p) (hq : 0 ≤ q) (hn : n ≤ 5) :
    |p - q| ≤ q / 2 ^ 50 := by
  obtain ⟨hlow, hhigh⟩ := h.mono hp hq hn
  have hdown : (1 - 1 / 2 ^ 50 : ℚ) ≤ (1 - roundoff) ^ 5 := by norm_num [roundoff]
  have hup : (1 : ℚ) ≤ (1 + 1 / 2 ^ 50) * (1 - roundoff) ^ 5 := by norm_num [roundoff]
  rw [abs_le]
  constructor
  · have hle : q * (1 - 1 / 2 ^ 50) ≤ p := (mul_le_mul_of_nonneg_left hdown hq).trans hlow
    linarith
  · have hle : p ≤ q * (1 + 1 / 2 ^ 50) :=
      calc p ≤ p * ((1 + 1 / 2 ^ 50) * (1 - roundoff) ^ 5) := le_mul_of_one_le_right hp hup
        _ = p * (1 - roundoff) ^ 5 * (1 + 1 / 2 ^ 50) := by ring
        _ ≤ q * (1 + 1 / 2 ^ 50) := by gcongr
    linarith

/-- **Rounding a quotient in the normal range** is one rounding. -/
theorem agree_ofQuotient (ha : 0 < a) (hb : 0 < b) (hnormal : (2 : ℚ) ^ (-1022 : ℤ) ≤ a / b) :
    Agree 1 (ofQuotient a b).value (a / b) := by
  obtain ⟨hlow, hhigh⟩ := logQuotient_spec ha hb
  have hlog : -1022 < logQuotient a b + 1 :=
    (zpow_lt_zpow_iff_right₀ one_lt_two).mp (hnormal.trans_lt hhigh)
  have hexponent : roundingExponent a b = logQuotient a b - 52 := by
    rw [roundingExponent, minExponent]
    omega
  have hulp : (2 : ℚ) ^ roundingExponent a b / 2 = 2 ^ logQuotient a b * roundoff := by
    rw [hexponent, zpow_sub₀ two_ne_zero, roundoff]
    norm_num
    ring
  have herror : |(ofQuotient a b).value - a / b| ≤ a / b * roundoff :=
    calc |(ofQuotient a b).value - a / b| ≤ 2 ^ logQuotient a b * roundoff :=
          (abs_value_ofQuotient_sub_le ha hb).trans_eq hulp
      _ ≤ a / b * roundoff := by
        gcongr
        norm_num [roundoff]
  obtain ⟨hdown, hup⟩ := abs_le.mp herror
  rw [Agree, pow_one]
  constructor
  · linarith
  · calc (ofQuotient a b).value * (1 - roundoff)
        ≤ a / b * (1 + roundoff) * (1 - roundoff) := by
          gcongr
          · exact one_sub_roundoff_pos.le
          · linarith
      _ = a / b - a / b * roundoff ^ 2 := by ring
      _ ≤ a / b := sub_le_self _ (by positivity)

/-- A natural number is **converted** with one rounding. -/
theorem agree_ofNat (hn : 0 < n) : Agree 1 (ofNat n).value n := by
  have hnormal : (2 : ℚ) ^ (-1022 : ℤ) ≤ (n : ℚ) / (1 : ℕ) := by
    rw [Nat.cast_one, div_one]
    calc (2 : ℚ) ^ (-1022 : ℤ) ≤ 1 := zpow_le_one_of_nonpos₀ one_le_two (by decide)
      _ ≤ n := by exact_mod_cast hn
  have hagree := agree_ofQuotient hn Nat.one_pos hnormal
  rwa [Nat.cast_one, div_one] at hagree

/-- The numerator of a number that is not zero. -/
theorem num_pos (hx : 0 < x.value) : 0 < x.num := by
  refine Nat.pos_of_ne_zero fun h => hx.ne' ?_
  rw [← num_div_den, h, Nat.cast_zero, zero_div]

/-- A **product** in the normal range takes one rounding. -/
theorem agree_mul (hx : 0 < x.value) (hy : 0 < y.value)
    (hnormal : (2 : ℚ) ^ (-1022 : ℤ) ≤ x.value * y.value) :
    Agree 1 (x.mul y).value (x.value * y.value) := by
  have hquotient : ((x.num * y.num : ℕ) : ℚ) / (x.den * y.den : ℕ) = x.value * y.value := by
    rw [← num_div_den x, ← num_div_den y]
    push_cast
    exact (div_mul_div_comm _ _ _ _).symm
  rw [← hquotient] at hnormal ⊢
  exact agree_ofQuotient (Nat.mul_pos (num_pos hx) (num_pos hy))
    (Nat.mul_pos x.den_pos y.den_pos) hnormal

/-- A **quotient** in the normal range takes one rounding. -/
theorem agree_div (hx : 0 < x.value) (hy : 0 < y.value)
    (hnormal : (2 : ℚ) ^ (-1022 : ℤ) ≤ x.value / y.value) :
    Agree 1 (x.div y).value (x.value / y.value) := by
  have hquotient : ((x.num * y.den : ℕ) : ℚ) / (x.den * y.num : ℕ) = x.value / y.value := by
    rw [← num_div_den x, ← num_div_den y]
    push_cast
    exact (div_div_div_eq _ _ _ _).symm
  rw [← hquotient] at hnormal ⊢
  exact agree_ofQuotient (Nat.mul_pos (num_pos hx) y.den_pos)
    (Nat.mul_pos x.den_pos (num_pos hy)) hnormal

/-! ### The form of a number -/

/-- **The form that the format has for a number**: a significand with 53 binary digits, or with
fewer if the exponent is the least one. -/
structure IsCanonical (x : Binary64) : Prop where
  significand_lt : x.significand < 2 * leadingDigit
  le_exponent : minExponent ≤ x.exponent
  normal : leadingDigit ≤ x.significand ∨ x.exponent = minExponent

theorem isCanonical_zero : zero.IsCanonical where
  significand_lt := by decide
  le_exponent := le_rfl
  normal := .inr rfl

/-- **Rounding** gives a number in its form. -/
theorem isCanonical_ofQuotient (a : ℕ) (hb : 0 < b) : (ofQuotient a b).IsCanonical := by
  rcases Nat.eq_zero_or_pos a with rfl | ha
  · rw [ofQuotient_zero]
    exact isCanonical_zero
  obtain ⟨m, hround, -, hform⟩ := exists_ofQuotient ha hb
  obtain ⟨hlow, hhigh⟩ := logQuotient_spec ha hb
  obtain ⟨hdown, hup⟩ := abs_le.mp hround
  have hmin : minExponent ≤ roundingExponent a b := le_max_right _ _
  have hdigit : ((leadingDigit : ℕ) : ℚ) = 2 ^ (52 : ℤ) := by norm_num [leadingDigit]
  have hle : m ≤ 2 * leadingDigit := by
    have hlt : (a / b / 2 ^ roundingExponent a b : ℚ) < 2 * leadingDigit := by
      rw [div_lt_iff₀ (by positivity), hdigit]
      calc (a / b : ℚ) < 2 ^ (logQuotient a b + 1) := hhigh
        _ ≤ 2 ^ (1 + 52 + roundingExponent a b) := by
          refine zpow_le_zpow_right₀ one_le_two ?_
          rw [roundingExponent]
          omega
        _ = 2 * 2 ^ (52 : ℤ) * 2 ^ roundingExponent a b := by
          rw [zpow_add₀ two_ne_zero, zpow_add₀ two_ne_zero, zpow_one]
    have hcast : (m : ℚ) < (2 * leadingDigit + 1 : ℕ) := by
      push_cast
      linarith
    exact Nat.lt_succ_iff.mp (Nat.cast_lt.mp hcast)
  have hnormal : leadingDigit ≤ m ∨ roundingExponent a b = minExponent := by
    rcases max_choice (logQuotient a b - 52) minExponent with hexponent | hexponent
    · left
      rw [← roundingExponent] at hexponent
      have hge : (leadingDigit : ℚ) ≤ a / b / 2 ^ roundingExponent a b := by
        rw [le_div_iff₀ (by positivity), hdigit, ← zpow_add₀ two_ne_zero, hexponent,
          add_sub_cancel]
        exact hlow
      have hcast : (leadingDigit : ℚ) < (m + 1 : ℕ) := by
        push_cast
        linarith
      exact Nat.lt_succ_iff.mp (Nat.cast_lt.mp hcast)
    · exact .inr hexponent
  rcases hform with ⟨-, hof⟩ | ⟨hne, hof⟩
  · rw [hof]
    have hdouble : leadingDigit < 2 * leadingDigit := by decide
    exact ⟨hdouble, hmin.trans (Int.le_add_one le_rfl), .inl le_rfl⟩
  · rw [hof]
    exact ⟨lt_of_le_of_ne hle hne, hmin, hnormal⟩

/-- A number in its form is **finite** if its value is less than `2 ^ 1024`. -/
theorem IsCanonical.isFinite (hx : x.IsCanonical) (hlt : x.value < 2 ^ (1024 : ℤ)) :
    x.IsFinite := by
  rw [IsFinite, maxExponent]
  by_contra! hlarge
  have hexponent : (972 : ℤ) ≤ x.exponent := by omega
  rcases hx.normal with hnormal | hmin
  · have hdigit : (2 : ℚ) ^ (52 : ℤ) ≤ x.significand := by
      calc (2 : ℚ) ^ (52 : ℤ) = (leadingDigit : ℕ) := by norm_num [leadingDigit]
        _ ≤ x.significand := Nat.cast_le.mpr hnormal
    refine hlt.not_ge ?_
    calc (2 : ℚ) ^ (1024 : ℤ) = 2 ^ (52 : ℤ) * 2 ^ (972 : ℤ) := zpow_add₀ two_ne_zero 52 972
      _ ≤ x.significand * 2 ^ x.exponent :=
          mul_le_mul hdigit (zpow_le_zpow_right₀ one_le_two hexponent)
            (zpow_nonneg zero_le_two _) (Nat.cast_nonneg _)
  · rw [hmin, minExponent] at hexponent
    omega

/-! ### Bits -/

/-- **The number that 64 bits stand for**, if they stand for one: a sign, eleven bits of exponent
and 52 of the significand. -/
def ofBits? (bits : ℕ) : Option ℚ :=
  let field := bits / leadingDigit % 2048
  let fraction := bits % leadingDigit
  let magnitude : ℚ :=
    if field = 0 then fraction * 2 ^ minExponent
    else (leadingDigit + fraction : ℕ) * 2 ^ (field - 1 + minExponent)
  if field = 2047 then none
  else some (if bits / (2048 * leadingDigit) % 2 = 0 then magnitude else -magnitude)

/-- Bits put together from an exponent and a fraction are taken apart again. -/
theorem ofBits?_fields {field fraction : ℕ} (hfield : field < 2047)
    (hfraction : fraction < leadingDigit) : ofBits? (field * leadingDigit + fraction) =
      some (if field = 0 then (fraction : ℚ) * 2 ^ minExponent
        else (leadingDigit + fraction : ℕ) * 2 ^ (field - 1 + minExponent)) := by
  have hhigh : (field * leadingDigit + fraction) / leadingDigit = field := by
    rw [leadingDigit] at hfraction ⊢
    omega
  have hlow : (field * leadingDigit + fraction) % leadingDigit = fraction := by
    rw [leadingDigit] at hfraction ⊢
    omega
  have hsign : (field * leadingDigit + fraction) / (2048 * leadingDigit) = 0 := by
    rw [leadingDigit] at hfraction ⊢
    omega
  have hmod : field % 2048 = field := Nat.mod_eq_of_lt (by omega)
  rw [ofBits?, hhigh, hlow, hsign, hmod]
  rw [if_neg (by omega), Nat.zero_mod, if_pos rfl]

/-- **The bits of a number** stand for its value. -/
theorem ofBits?_toBits (hx : x.IsCanonical) (hfinite : x.IsFinite) :
    ofBits? x.toBits = some x.value := by
  rcases Nat.lt_or_ge x.significand leadingDigit with hsub | hnormal
  · have hexponent : x.exponent = minExponent := hx.normal.resolve_left (Nat.not_le.mpr hsub)
    have hzero : 0 < 2047 := by decide
    have hbits := ofBits?_fields hzero hsub
    rw [Nat.zero_mul, Nat.zero_add, if_pos rfl] at hbits
    rw [toBits, if_pos hsub, hbits, value, hexponent]
  · have hmin := hx.le_exponent
    obtain ⟨field, hfield⟩ : ∃ field : ℕ, (field : ℤ) = x.exponent - minExponent + 1 :=
      ⟨(x.exponent - minExponent + 1).toNat, by omega⟩
    have hlt : field < 2047 := by
      rw [IsFinite, maxExponent] at hfinite
      rw [minExponent] at hfield
      omega
    have hfraction : x.significand - leadingDigit < leadingDigit := by
      have := hx.significand_lt
      omega
    have hexponent : (field : ℤ) - 1 + minExponent = x.exponent := by omega
    rw [toBits, if_neg (Nat.not_lt.mpr hnormal), ← hfield, Int.toNat_natCast,
      ofBits?_fields hlt hfraction, if_neg (by omega), Nat.add_sub_cancel' hnormal, hexponent,
        value]

/-- The bit of the sign is not set. -/
theorem toBits_lt (hx : x.IsCanonical) (hfinite : x.IsFinite) : x.toBits < 2 ^ 63 := by
  have hlt := hx.significand_lt
  have hmin := hx.le_exponent
  rw [IsFinite, maxExponent] at hfinite
  rw [minExponent] at hmin
  rw [toBits]
  split
  · rename_i hsub
    exact hsub.trans (by decide)
  · rw [leadingDigit] at hlt ⊢
    rw [minExponent]
    omega

end Binary64

end RayTally
