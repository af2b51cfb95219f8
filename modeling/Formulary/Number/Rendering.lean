import Formulary.Number.Shortest

/-!
# Text of a number

The digits of a number come from `Binary64.shortest`; how they are laid out is decided here, in one
record. A number is written positionally, without an exponent, when its magnitude lies in a given
range, and zero always is; outside the range it is written with one digit before the point and an
exponent that always carries its sign. No text ends in a point or in a zero after a point.

The two limits of the range are decimals, and they are compared as the doubles nearest to them, which
is a comparison of patterns.
-/

set_option autoImplicit false

namespace Formulary

/-- How numbers are laid out. -/
structure Layout where
  /-- The smallest magnitude, zero apart, that is written without an exponent. -/
  positionalFrom : Decimal
  /-- The first magnitude above that which is written with one. -/
  positionalBelow : Decimal
  /-- The least number of digits of an exponent. -/
  exponentWidth : Nat

/-- Numbers in formulas are written without an exponent from `10⁻⁵` to below `10¹⁵`, and exponents
have two digits or more. -/
def Layout.canonical : Layout where
  positionalFrom := ⟨1, -5⟩
  positionalBelow := ⟨1, 15⟩
  exponentWidth := 2

namespace Decimal

/-- The decimal written without an exponent. -/
def positional (d : Decimal) : List Char :=
  if 0 ≤ d.exponent then
    d.digits ++ List.replicate d.exponent.toNat '0'
  else if (-d.exponent).toNat < d.digits.length then
    d.digits.take (d.digits.length - (-d.exponent).toNat) ++
      '.' :: d.digits.drop (d.digits.length - (-d.exponent).toNat)
  else
    '0' :: '.' :: (List.replicate ((-d.exponent).toNat - d.digits.length) '0' ++ d.digits)

/-- The power of ten of the leading digit. -/
def order (d : Decimal) : Int :=
  d.exponent + (d.digits.length : Int) - 1

/-- The digits with a point after the first, unless it is the only one. -/
def mantissa : List Char → List Char
  | [] => []
  | [c] => [c]
  | c :: rest => c :: '.' :: rest

/-- A natural number written with at least `width` digits. -/
def padded (width n : Nat) : List Char :=
  List.replicate (width - (Nat.toDigits 10 n).length) '0' ++ Nat.toDigits 10 n

/-- The decimal written with one digit before the point and an exponent of at least `width`
digits. -/
def scientific (width : Nat) (d : Decimal) : List Char :=
  mantissa d.digits ++ 'e' :: (if d.order < 0 then '-' else '+') :: padded width d.order.natAbs

/-! The layouts at their seams: whole numbers, a point inside the digits and before them, one digit
and several, and exponents of either sign. -/

example : positional ⟨12, 3⟩ = "12000".toList := by decide

example : positional ⟨12345, -2⟩ = "123.45".toList := by decide

example : positional ⟨12, -2⟩ = "0.12".toList := by decide

example : positional ⟨1, -5⟩ = "0.00001".toList := by decide

example : scientific 2 ⟨1, 15⟩ = "1e+15".toList := by decide

example : scientific 2 ⟨1, -6⟩ = "1e-06".toList := by decide

example : scientific 2 ⟨15, 299⟩ = "1.5e+300".toList := by decide

end Decimal

namespace Binary64

/-- The layout writes this pattern without an exponent. -/
def isPositional (layout : Layout) (n : Nat) : Bool :=
  n == 0 || (decide (layout.positionalFrom.nearest ≤ n) &&
    decide (n < layout.positionalBelow.nearest))

/-- The text of a finite magnitude. -/
def magnitudeText (layout : Layout) (n : Nat) : List Char :=
  if n = 0 then Decimal.positional ⟨0, 0⟩
  else if isPositional layout n then (shortest n).positional
  else (shortest n).scientific layout.exponentWidth

/-- The text of a finite number. Zero keeps its sign. -/
def finiteText (layout : Layout) (v : Binary64) : List Char :=
  if v.negative then '-' :: magnitudeText layout v.magnitude
  else magnitudeText layout v.magnitude

/-- The name of a number that is not finite; a NaN has no sign. -/
def specialText (v : Binary64) : String :=
  if v.isNaN then "nan" else if v.negative then "-inf" else "inf"

end Binary64

end Formulary
