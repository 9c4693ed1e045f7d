import RayTally.Number.Binary64
import RayTally.Text.Decimal

/-!
# Numbers with two places

The text of a number rounded to hundredths. The exact value is rounded, half to even, so the text
is within half a hundredth of the number.

## Main results

* `Fixed.twoPlaces_zero`: zero is written `0.00`.
-/

namespace RayTally.Fixed

/-- A number of hundredths: the units, a point and two digits. -/
def ofHundredths (n : Nat) : List Char :=
  Decimal.digits (n / 100) ++
    ['.', Decimal.digitChar (n / 10 % 10), Decimal.digitChar (n % 10)]

/-- The hundredths nearest to a number. -/
def hundredths (x : Binary64) : Nat := roundHalfEven (100 * x.num) x.den

/-- The number **to two places**. -/
def twoPlaces (x : Binary64) : List Char := ofHundredths (hundredths x)

theorem hundredths_zero : hundredths .zero = 0 := by
  simp [hundredths, roundHalfEven, Binary64.den_pos]

theorem twoPlaces_zero : twoPlaces .zero = ['0', '.', '0', '0'] := by
  rw [twoPlaces, hundredths_zero]
  simp [ofHundredths, Decimal.digits, Decimal.digitChar]

end RayTally.Fixed
