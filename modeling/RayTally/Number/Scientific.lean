import RayTally.Number.Shortest

/-!
# Numerals with a point and an exponent

The values that such numerals have in binary64. `ofDecimal` rounds the exact value once.
`ofRoundedParts` rounds the digits and the power of ten first and then their product or quotient,
which may differ from it in the last place.
-/

namespace RayTally

-- Powers of naturals are those of core, whatever else is imported.
attribute [local instance (high)] instPowNat

/-- A **signed number** in binary64. -/
inductive FloatValue
  | finite (negative : Bool) (magnitude : Binary64)
  | infinite (negative : Bool)
  | notANumber
  deriving DecidableEq

namespace FloatValue

/-- The text of a number in a layout. -/
def text (l : Layout) : FloatValue → List Char
  | finite false x => l.text x
  | finite true x => '-' :: l.text x
  | infinite false => "inf".toList
  | infinite true => "-inf".toList
  | notANumber => "NaN".toList

end FloatValue

namespace Scientific

/-- The number nearest to `n * 10 ^ e`; `none` if it overflows. Exponents far outside the format are
told by the count of digits. -/
def ofDecimal (n : Nat) (e : Int) : Option Binary64 :=
  if n = 0 then some .zero
  else
    let p : Int := (Decimal.digits n).length + e
    if p > 310 then none
    else if p < -330 then some .zero
    else
      let x := Binary64.ofQuotient (n * 10 ^ e.toNat) (10 ^ (-e).toNat)
      if x.IsFinite then some x else none

/-- The number nearest to a power of ten. -/
def powerOfTen (k : Nat) : Binary64 := .ofNat (10 ^ k)

/-- The digits rounded, times or divided by the rounded power of ten; `none` on overflow. Powers
past `10 ^ 308` are divided by in steps. -/
def ofRoundedParts (x : Binary64) (e : Int) : Nat → Option Binary64
  | 0 => some .zero
  | fuel + 1 =>
    if e.natAbs ≤ 308 then
      let y := if 0 ≤ e then x.mul (powerOfTen e.natAbs) else x.div (powerOfTen e.natAbs)
      if y.IsFinite then some y else none
    else if x.significand = 0 then some x
    else if 0 ≤ e then none
    else ofRoundedParts (x.div (powerOfTen 308)) (e + 308) fuel

end Scientific

end RayTally
