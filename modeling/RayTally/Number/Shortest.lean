import RayTally.Number.Binary64
import RayTally.Text.Decimal

/-!
# Shortest numerals

The shortest decimal that is nearer to a number of the binary64 format than to any other: of the
decimals with fewest digits inside the interval that rounds to the number, the nearest one. A layout
says which of them are written with an exponent.
-/

namespace RayTally

-- Powers of naturals are those of core, whatever else is imported.
attribute [local instance (high)] instPowNat

namespace Shortest

/-- The numbers that round to a given one, in units of a quarter of its last place: the number, the
ends of the interval, and whether the ends belong to it. -/
structure Interval where
  value : Nat
  lower : Nat
  upper : Nat
  closed : Bool

/-- The interval of a number. Below a power of two the neighbour is half as far away. -/
def interval (x : Binary64) : Interval where
  value := 4 * x.significand
  lower := 4 * x.significand -
    if x.significand = Binary64.leadingDigit ∧ x.exponent ≠ Binary64.minExponent then 1 else 2
  upper := 4 * x.significand + 2
  closed := x.significand % 2 == 0

/-- Whether the decimal `c / d` lies in an interval whose unit is `a / d`. -/
def Interval.contains (i : Interval) (a c : Nat) : Bool :=
  if i.closed then i.lower * a ≤ c && c ≤ i.upper * a else i.lower * a < c && c < i.upper * a

/-- The least `j` with `b ≤ a * 10 ^ j`, as far as `fuel` allows. -/
def leadingZeros (a b : Nat) : Nat → Nat
  | 0 => 0
  | fuel + 1 => if b ≤ a then 0 else leadingZeros (a * 10) b fuel + 1

/-- Where the decimal point stands relative to the first digit of `a / b`. -/
def magnitude (a b : Nat) : Int :=
  if b ≤ a then (Decimal.digits (a / b)).length else 1 - (leadingZeros a b 400 : Int)

/-- A decimal in the interval with `s` places, if there is one; the nearer one of two. Negative `s`
stand for multiples of a power of ten. -/
def withPlaces? (x : Binary64) (s : Int) : Option Nat :=
  let i := interval x
  let a := 2 ^ (x.exponent - 2).toNat * 10 ^ s.toNat
  let d := 2 ^ (2 - x.exponent).toNat * 10 ^ (-s).toNat
  let f := i.value * a / d
  let below := i.contains a (f * d)
  let above := i.contains a ((f + 1) * d)
  if below && above then
    some (if i.value * a - f * d ≤ (f + 1) * d - i.value * a then f else f + 1)
  else if below then some f
  else if above then some (f + 1)
  else none

/-- A decimal: its digits, and where the point stands relative to the first of them. -/
structure Decimal64 where
  digits : List Char
  point : Int

/-- The digits without the zeros at their end. -/
def stripZeros (ds : List Char) : List Char := (ds.reverse.dropWhile (· == '0')).reverse

/-- Tries `n` digits, then more. -/
def search (x : Binary64) (p : Int) : Nat → Nat → Decimal64
  | n, 0 => ⟨[], n⟩
  | n, fuel + 1 =>
    match withPlaces? x (n - p) with
    | some c =>
      let ds := Decimal.digits c
      ⟨stripZeros ds, ds.length - (n - p)⟩
    | none => search x p (n + 1) fuel

/-- The **shortest decimal** of a positive number. Seventeen digits always suffice. -/
def decimal (x : Binary64) : Decimal64 := search x (magnitude x.num x.den) 1 17

end Shortest

/-- Which numbers are written **without an exponent**: those whose decimal point stands above
`least` and up to `most`. -/
structure Layout where
  least : Option Int
  most : Option Int

namespace Layout

/-- No number has an exponent. -/
def positional : Layout := ⟨none, none⟩

/-- Numbers below `10 ^ -5` and from `10 ^ 16` on have an exponent. -/
def compact : Layout := ⟨some (-5), some 16⟩

/-- Whether a number whose point stands at `p` has no exponent. -/
def isPositional (l : Layout) (p : Int) : Bool :=
  l.least.all (· < p) && l.most.all (p ≤ ·)

/-- A run of zeros. -/
def zeros (n : Int) : List Char := List.replicate n.toNat '0'

/-- The digits with a point and no exponent; there is a digit on both sides of the point. -/
def placed (d : Shortest.Decimal64) : List Char :=
  let n : Int := d.digits.length
  if d.point ≤ 0 then ['0', '.'] ++ zeros (-d.point) ++ d.digits
  else if n ≤ d.point then d.digits ++ zeros (d.point - n) ++ ['.', '0']
  else d.digits.take d.point.toNat ++ ['.'] ++ d.digits.drop d.point.toNat

/-- An exponent. -/
def exponent (e : Int) : List Char :=
  if e < 0 then ['e', '-'] ++ Decimal.digits (-e).toNat else 'e' :: Decimal.digits e.toNat

/-- The digits with an exponent. -/
def scientific (d : Shortest.Decimal64) : List Char :=
  match d.digits with
  | [c] => c :: exponent (d.point - 1)
  | c :: cs => c :: '.' :: cs ++ exponent (d.point - 1)
  | [] => []

/-- The text of a number. -/
def text (l : Layout) (x : Binary64) : List Char :=
  if x.significand = 0 then ['0', '.', '0']
  else
    let d := Shortest.decimal x
    if l.isPositional d.point then placed d else scientific d

end Layout

end RayTally
