import RayTally.Proofs.Number.Rounding
import RayTally.Proofs.Report.Layout

/-!
# Shares and averages

A share is found with up to five roundings: one for each of three conversions, one for the product
and one for the quotient. An average is found with three. All of them are in the normal range, so
the result is as close to the exact ratio as five roundings can leave it. That also holds of
counters which do not fit together, such as a part that is more than its total.

What is printed is the nearest number of hundredths. A share of a part in a total is at most one
hundred percent before it is rounded. After that it can be more by less than half a hundredth, so a
share of more than `100.00` is not printed.

## Main results

* `Fixed.shows_twoPlaces`: a number is printed as the nearest number of hundredths.
* `isRatio_percentage`, `isRatio_average`: shares and averages as ratios.
* `Efficiency.ofTally_eq_none_iff`: when there is no efficiency at all.
* `IsRatio.isRatioText`: what is printed of a ratio.
* `derived_numbers`: shares and averages, and what a summary prints of them.
-/

namespace RayTally

/-! ### Two places -/

namespace Fixed

/-- **A number with two places**: at least one digit, a point, and two more digits. Without the
point they are the numeral of `n` hundredths. -/
def Shows (cs : List Char) (n : ℕ) : Prop :=
  ∃ units places, cs = units ++ '.' :: places ∧ units ≠ [] ∧ places.length = 2 ∧
    (∀ c ∈ units ++ places, c.isDigit = true) ∧ Nat.ofDigitChars 10 (units ++ places) 0 = n

/-- A number of hundredths is printed as it is. -/
theorem shows_ofHundredths (n : ℕ) : Shows (ofHundredths n) n := by
  have htenths : n / 10 % 10 < 10 := Nat.mod_lt _ (by decide)
  have hhundredths : n % 10 < 10 := Nat.mod_lt _ (by decide)
  refine ⟨Decimal.digits (n / 100), _, rfl, Decimal.digits_ne_nil _, rfl, ?_, ?_⟩
  · intro c hc
    simp only [List.mem_append, List.mem_cons, List.not_mem_nil, or_false] at hc
    rcases hc with hunits | rfl | rfl
    · exact Decimal.isDigit_of_mem_digits hunits
    · exact Decimal.isDigit_digitChar htenths
    · exact Decimal.isDigit_digitChar hhundredths
  · rw [List.append_cons, Decimal.ofDigitChars_concat _ hhundredths,
      Decimal.ofDigitChars_concat _ htenths, Decimal.ofDigitChars_digits]
    omega

/-- **The hundredths of a number** are the nearest to it. -/
theorem abs_hundredths_sub_le (x : Binary64) : |(hundredths x : ℚ) - 100 * x.value| ≤ 1 / 2 := by
  have hround := Binary64.abs_roundHalfEven_sub_le (100 * x.num) x.den_pos
  rwa [Nat.cast_mul, mul_div_assoc, x.num_div_den] at hround

/-- A number that is zero has no hundredths. -/
theorem hundredths_of_value_eq_zero {x : Binary64} (hx : x.value = 0) : hundredths x = 0 := by
  have hnear := abs_hundredths_sub_le x
  rw [hx, mul_zero, sub_zero, Nat.abs_cast] at hnear
  have hlt : (hundredths x : ℚ) < (1 : ℕ) := hnear.trans_lt (by norm_num)
  exact Nat.lt_one_iff.mp (Nat.cast_lt.mp hlt)

end Fixed

/-! ### Ratios -/

/-- **A ratio in binary64**: the bits of `x` stand for a number that is not negative, is zero
exactly if the part or the total is, and else is `factor` times their quotient but for a relative
error of `2 ^ -50`. -/
structure IsRatio (factor part total : ℕ) (x : Binary64) : Prop where
  bits : Binary64.ofBits? x.toBits = some x.value
  unsigned : x.toBits < 2 ^ 63
  nonneg : 0 ≤ x.value
  eq_zero_iff : x.value = 0 ↔ part = 0 ∨ total = 0
  close : 0 < total → |x.value * total - factor * part| ≤ factor * part / 2 ^ 50

variable {factor part total n : ℕ} {x : Binary64} {q : ℚ} {cs : List Char}

open Binary64

/-- Zero is the ratio if the part or the total is zero. -/
theorem isRatio_zero (h : part = 0 ∨ total = 0) : IsRatio factor part total .zero where
  bits := ofBits?_toBits isCanonical_zero (by decide)
  unsigned := by decide
  nonneg := value_nonneg _
  eq_zero_iff := iff_of_true value_zero h
  close htotal := by
    obtain rfl : part = 0 := h.resolve_right htotal.ne'
    simp [value_zero]

/-- **A number that agrees with a ratio** up to a few roundings. -/
theorem isRatio_of_agree (hx : x.IsCanonical) (hfactor : 0 < factor) (hfactor' : factor ≤ 100)
    (hpart : 0 < part) (hpart' : part < 2 ^ 64) (htotal : 0 < total) (hn : n ≤ 5)
    (h : Agree n x.value (factor * part / total)) : IsRatio factor part total x := by
  have hratio : (0 : ℚ) < factor * part / total := by positivity
  have hclose := h.abs_sub_le (value_nonneg x) hratio.le hn
  have hvalue : x.value < 2 ^ (1024 : ℤ) := by
    have hsmall : (factor * part / total : ℚ) ≤ 100 * 2 ^ 64 :=
      calc (factor * part / total : ℚ) ≤ factor * part :=
            div_le_self (by positivity) (by exact_mod_cast htotal)
        _ ≤ 100 * 2 ^ 64 := by
          gcongr
          · exact_mod_cast hfactor'
          · exact_mod_cast hpart'.le
    calc x.value < 2 ^ (72 : ℤ) := by
          have := (abs_le.mp hclose).2
          norm_num at this hsmall ⊢
          linarith
      _ ≤ 2 ^ (1024 : ℤ) := zpow_le_zpow_right₀ one_le_two (by decide)
  have hfinite := hx.isFinite hvalue
  refine ⟨ofBits?_toBits hx hfinite, toBits_lt hx hfinite, value_nonneg x, ?_, fun _ => ?_⟩
  · exact iff_of_false (h.pos hratio).ne' (not_or.mpr ⟨hpart.ne', htotal.ne'⟩)
  · have htotal' : (0 : ℚ) < total := Nat.cast_pos.mpr htotal
    calc |x.value * total - factor * part| = |x.value - factor * part / total| * total := by
          rw [← abs_of_pos htotal', ← abs_mul, abs_of_pos htotal', sub_mul,
            div_mul_cancel₀ _ htotal'.ne']
      _ ≤ factor * part / total / 2 ^ 50 * total := by gcongr
      _ = factor * part / 2 ^ 50 := by
        field_simp

/-- **Dividing by a total** takes two roundings, one for the total and one for the quotient. -/
theorem agree_div_ofNat (h : Agree n x.value q) (hn : n ≤ 3) (hq : 1 ≤ q) (htotal : 0 < total)
    (htotal' : total < 2 ^ 64) : Agree (n + 2) (x.div (.ofNat total)).value (q / total) := by
  have hq' : 0 < q := one_pos.trans_le hq
  have ht : (0 : ℚ) < total := Nat.cast_pos.mpr htotal
  have hof := agree_ofNat htotal
  have hquotient : Agree (n + 1) (x.value / (ofNat total).value) (q / total) :=
    h.div hof (value_nonneg x) hq'.le (hof.pos ht) ht
  have hnormal : (2 : ℚ) ^ (-1022 : ℤ) ≤ x.value / (ofNat total).value :=
    calc (2 : ℚ) ^ (-1022 : ℤ) ≤ 2 ^ (-65 : ℤ) := zpow_le_zpow_right₀ one_le_two (by decide)
      _ = 1 / 2 ^ 64 / 2 := by norm_num
      _ ≤ q / total / 2 := by
        gcongr
        exact_mod_cast htotal'.le
      _ ≤ x.value / (ofNat total).value := hquotient.half_le (by positivity) (by omega)
  have hround := (agree_div (h.pos hq') (hof.pos ht) hnormal).trans hquotient
  rwa [add_comm 1] at hround

/-- **What is divided by a total** is a ratio if the numerator is only a few roundings off. -/
theorem isRatio_div_ofNat (h : Agree n x.value (factor * part)) (hn : n ≤ 3) (hfactor : 0 < factor)
    (hfactor' : factor ≤ 100) (hpart : 0 < part) (hpart' : part < 2 ^ 64) (htotal : 0 < total)
    (htotal' : total < 2 ^ 64) : IsRatio factor part total (x.div (.ofNat total)) := by
  have hone : (1 : ℚ) ≤ factor * part := by exact_mod_cast Nat.mul_pos hfactor hpart
  have hdivisor : 0 < (ofNat total).num :=
    num_pos ((agree_ofNat htotal).pos (Nat.cast_pos.mpr htotal))
  have hform : (x.div (.ofNat total)).IsCanonical :=
    isCanonical_ofQuotient _ (Nat.mul_pos x.den_pos hdivisor)
  exact isRatio_of_agree hform hfactor hfactor' hpart hpart' htotal (by omega)
    (agree_div_ofNat h hn hone htotal htotal')

/-- One hundred times a number takes three roundings, two of them for the factors. -/
theorem agree_hundred_mul (hpart : 0 < part) :
    Agree 3 ((ofNat 100).mul (ofNat part)).value ((100 : ℕ) * part) := by
  have hone : (1 : ℚ) ≤ part := by exact_mod_cast hpart
  have hhundred : Agree 1 (ofNat 100).value (100 : ℕ) := agree_ofNat (by decide)
  have hof := agree_ofNat hpart
  have hexact : Agree 2 ((ofNat 100).value * (ofNat part).value) ((100 : ℕ) * part) :=
    hhundred.mul hof (value_nonneg _) (Nat.cast_nonneg _) (value_nonneg _) (Nat.cast_nonneg _)
  have hnormal : (2 : ℚ) ^ (-1022 : ℤ) ≤ (ofNat 100).value * (ofNat part).value :=
    calc (2 : ℚ) ^ (-1022 : ℤ) ≤ 1 := zpow_le_one_of_nonpos₀ one_le_two (by decide)
      _ ≤ (100 : ℕ) * part / 2 := by
        push_cast
        linarith
      _ ≤ (ofNat 100).value * (ofNat part).value := hexact.half_le (by positivity) (by decide)
  have hround := agree_mul (hhundred.pos (by norm_num)) (hof.pos (by linarith)) hnormal
  exact hround.trans hexact

/-- **A share** is one hundred times the ratio of a part and a total. -/
theorem isRatio_percentage (part total : UInt64) :
    IsRatio 100 part.toNat total.toNat (percentage part total) := by
  rw [percentage]
  split
  · rename_i htotal
    exact isRatio_zero (.inr (congrArg UInt64.toNat htotal))
  rename_i htotal
  rcases Nat.eq_zero_or_pos part.toNat with hpart | hpart
  · have hzero : ((ofNat 100).mul (ofNat part.toNat)).div (ofNat total.toNat) = .zero := by
      simp [hpart, ofNat, mul, div]
    rw [hzero]
    exact isRatio_zero (.inl hpart)
  · have htotal' : 0 < total.toNat := Nat.pos_of_ne_zero fun h => htotal (UInt64.toNat_inj.mp h)
    exact isRatio_div_ofNat (agree_hundred_mul hpart) le_rfl (by decide) le_rfl hpart part.toNat_lt
      htotal' total.toNat_lt

/-- **An average** is the ratio of a value and a number of rays. -/
theorem isRatio_average (value count : UInt64) :
    IsRatio 1 value.toNat count.toNat (average value count) := by
  rw [average]
  split
  · rename_i hcount
    exact isRatio_zero (.inr (congrArg UInt64.toNat hcount))
  rename_i hcount
  rcases Nat.eq_zero_or_pos value.toNat with hvalue | hvalue
  · have hzero : (ofNat value.toNat).div (ofNat count.toNat) = .zero := by
      simp [hvalue, ofNat, div]
    rw [hzero]
    exact isRatio_zero (.inl hvalue)
  · have hcount' : 0 < count.toNat := Nat.pos_of_ne_zero fun h => hcount (UInt64.toNat_inj.mp h)
    have hof : Agree 1 (ofNat value.toNat).value ((1 : ℕ) * value.toNat) := by
      rw [Nat.cast_one, one_mul]
      exact agree_ofNat hvalue
    exact isRatio_div_ofNat hof (by decide) Nat.one_pos (by decide) hvalue value.toNat_lt hcount'
      count.toNat_lt

/-- An average is zero if there is nothing to divide or nothing to divide by. -/
theorem average_eq_zero_iff {value count : UInt64} :
    average value count = .zero ↔ value = 0 ∨ count = 0 := by
  have hratio := (isRatio_average value count).eq_zero_iff
  constructor
  · intro h
    rw [h] at hratio
    exact (hratio.mp value_zero).imp UInt64.toNat_inj.mp UInt64.toNat_inj.mp
  · rintro (rfl | rfl)
    · simp [average, ofNat, div]
    · exact average_of_count_eq_zero value

/-- **There is no efficiency at all** exactly if there are no rays or nothing was done for them. -/
theorem Efficiency.ofTally_eq_none_iff (t : Tally) : Efficiency.ofTally t = .none ↔
    t.get .rays = 0 ∨ t.get .boxTests = 0 ∧ t.get .triangleTests = 0 ∧ t.get .nodes = 0 := by
  simp only [Efficiency.ofTally, Efficiency.none, Efficiency.mk.injEq, average_eq_zero_iff]
  tauto

/-! ### What is printed -/

/-- **The text of a ratio** has two places. It is zero if there is nothing to divide by, is never
more than `factor` if the part is not more than the total, and is off by half a hundredth and the
error of the ratio at most. -/
structure IsRatioText (factor part total : ℕ) (cs : List Char) : Prop where
  of_total_eq_zero : total = 0 → cs = "0.00".toList
  exists_shows : ∃ n, Fixed.Shows cs n ∧ (part ≤ total → n ≤ 100 * factor) ∧
    (0 < total → |(n * total - 100 * (factor * part) : ℚ)| ≤
      total / 2 + 100 * (factor * part) / 2 ^ 50)

/-- The hundredths that are printed, in units of the total. -/
theorem IsRatio.abs_hundredths_mul_sub_le (h : IsRatio factor part total x) (htotal : 0 < total) :
    |(Fixed.hundredths x * total - 100 * (factor * part) : ℚ)| ≤
      total / 2 + 100 * (factor * part) / 2 ^ 50 :=
  calc |(Fixed.hundredths x * total - 100 * (factor * part) : ℚ)|
      = |(Fixed.hundredths x - 100 * x.value) * total +
          100 * (x.value * total - factor * part)| := by
        congr 1
        ring
    _ ≤ |(Fixed.hundredths x - 100 * x.value) * total| +
          |100 * (x.value * total - factor * part)| := abs_add_le _ _
    _ = |Fixed.hundredths x - 100 * x.value| * total +
          100 * |x.value * total - factor * part| := by
        rw [abs_mul, Nat.abs_cast, abs_mul, Nat.abs_ofNat]
    _ ≤ 1 / 2 * total + 100 * (factor * part / 2 ^ 50) := by
        gcongr
        · exact Fixed.abs_hundredths_sub_le x
        · exact h.close htotal
    _ = total / 2 + 100 * (factor * part) / 2 ^ 50 := by ring

/-- **A part that is not more than its total** is printed as a share that is not more than all. -/
theorem IsRatio.hundredths_le (h : IsRatio factor part total x) (hfactor : factor ≤ 100)
    (hle : part ≤ total) : Fixed.hundredths x ≤ 100 * factor := by
  rcases Nat.eq_zero_or_pos total with htotal | htotal
  · rw [Fixed.hundredths_of_value_eq_zero (h.eq_zero_iff.mpr (.inr htotal))]
    exact Nat.zero_le _
  have ht : (0 : ℚ) < total := Nat.cast_pos.mpr htotal
  have hproduct : (factor * part : ℚ) ≤ factor * total := by
    gcongr
  have herror : (100 * (factor * part) / 2 ^ 50 : ℚ) < total / 2 :=
    calc (100 * (factor * part) / 2 ^ 50 : ℚ) ≤ 100 * (100 * total) / 2 ^ 50 := by
          gcongr
          exact_mod_cast hfactor
      _ < total / 2 := by
        rw [div_lt_div_iff₀ (by norm_num) two_pos]
        linarith
  have hupper := (abs_le.mp (h.abs_hundredths_mul_sub_le htotal)).2
  have hlt : (Fixed.hundredths x * total : ℚ) < (100 * factor + 1 : ℕ) * total := by
    push_cast
    linarith
  exact Nat.lt_succ_iff.mp (Nat.cast_lt.mp (lt_of_mul_lt_mul_right hlt ht.le))

/-- **The text of a ratio** is within the limits of the ratio. -/
theorem IsRatio.isRatioText (h : IsRatio factor part total x) (hfactor : factor ≤ 100) :
    IsRatioText factor part total (Fixed.twoPlaces x) where
  of_total_eq_zero htotal := by
    rw [Fixed.twoPlaces, Fixed.hundredths_of_value_eq_zero (h.eq_zero_iff.mpr (.inr htotal)),
      ← Fixed.hundredths_zero]
    exact Fixed.twoPlaces_zero
  exists_shows :=
    ⟨Fixed.hundredths x, Fixed.shows_ofHundredths _, h.hundredths_le hfactor,
      h.abs_hundredths_mul_sub_le⟩

/-- **Shares and averages**. For all counters, every share of a part in a total is one hundred times
their ratio, and every average over the rays is a ratio: a finite number which is not negative, is
zero only if it has to be, and else has a relative error of at most `2 ^ -50`. The averages are all
zero exactly if there are no rays or there is nothing to average. A summary of any counters has
nothing but numbers with two places where it has a share or an average, within the limits of the
ratio. -/
theorem derived_numbers :
    (∀ part total : UInt64, IsRatio 100 part.toNat total.toNat (percentage part total)) ∧
      (∀ t : Tally,
        IsRatio 1 (t.get .boxTests).toNat (t.get .rays).toNat (Efficiency.ofTally t).boxTests ∧
          IsRatio 1 (t.get .triangleTests).toNat (t.get .rays).toNat
            (Efficiency.ofTally t).triangleTests ∧
          IsRatio 1 (t.get .nodes).toNat (t.get .rays).toNat (Efficiency.ofTally t).nodes ∧
          (Efficiency.ofTally t = .none ↔
            t.get .rays = 0 ∨ t.get .boxTests = 0 ∧ t.get .triangleTests = 0 ∧ t.get .nodes = 0)) ∧
      ∀ (lead : String) (t : Tally),
        Summary.text lead t =
            Summary.layout lead t (Summary.shareText t) (Summary.meanText t) ∧
          ∀ c, IsRatioText 100 (t.get c).toNat (t.get c.category.total).toNat
              (Summary.shareText t c) ∧
            IsRatioText 1 (t.get c).toNat (t.get .rays).toNat (Summary.meanText t c) := by
  refine ⟨isRatio_percentage, fun t => ?_, fun lead t => ?_⟩
  · exact ⟨isRatio_average _ _, isRatio_average _ _, isRatio_average _ _,
      Efficiency.ofTally_eq_none_iff t⟩
  · refine ⟨Summary.text_eq_layout lead t, fun c => ?_⟩
    exact ⟨(isRatio_percentage _ _).isRatioText le_rfl,
      (isRatio_average _ _).isRatioText (by decide)⟩

end RayTally
