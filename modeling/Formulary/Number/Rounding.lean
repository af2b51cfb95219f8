import Formulary.Number.Decimal
import Formulary.Number.Binary64

/-!
# Rounding a decimal to the nearest double

The double used for a decimal is the one nearest to it, and of two that are equally near the one with
the even significand. The rule holds in all three regimes of the format: among the subnormal
numbers, where the result may be zero; among the normal ones; and at the top, where a decimal from
`2¹⁰²⁴ - 2⁹⁷⁰` on is nearest to the pattern of infinity.

`nearestExact` is that rule and nothing else. It needs `10 ^ exponent`, and a literal of a dozen
characters can name an exponent with billions of digits of power behind it. `nearest` therefore
settles the decimals that are certainly too large or too small without the power, and agrees with
`nearestExact` on the others by definition.
-/

set_option autoImplicit false

namespace Formulary

/-- The quotient `num / den` rounded to the nearest natural number, a half to the even one. -/
def roundQuotient (num den : Nat) : Nat :=
  if 2 * (num % den) < den then num / den
  else if den < 2 * (num % den) then num / den + 1
  else num / den + num / den % 2

namespace Binary64

/-- How often the unit is doubled in the binade that holds the quotient `num / den`. -/
def scaleOf (num den : Nat) : Nat :=
  (num / den).log2 - 52

/-- The pattern nearest to `num / den` units. Rounding up to the next power of two carries from the
significand into the exponent by itself, because the two are one number. -/
def nearestPattern (num den : Nat) : Nat :=
  min (scaleOf num den * Nat.pow 2 52 + roundQuotient num (den * Nat.pow 2 (scaleOf num den))) infinite

end Binary64

namespace Decimal

/-- The pattern nearest to a decimal. -/
def nearestExact (d : Decimal) : Nat :=
  Binary64.nearestPattern (d.num * Nat.pow 2 1074) d.den

/-- A decimal from `10³⁰⁹` on is beyond every double. -/
def isHuge (d : Decimal) : Bool :=
  d.coefficient != 0 && decide (309 ≤ d.exponent)

/-- A decimal is below half of the smallest double when its negative power of ten, at three bits to a
power, outweighs the bits of its coefficient by that much. -/
def isTiny (d : Decimal) : Bool :=
  d.coefficient == 0 || decide ((d.coefficient.log2 : Int) + 1076 < 3 * -d.exponent)

/-- The pattern nearest to a decimal, found without large powers of ten where the size of the decimal
alone decides. -/
def nearest (d : Decimal) : Nat :=
  if d.isHuge then Binary64.infinite
  else if d.isTiny then 0
  else d.nearestExact

theorem nearest_le (d : Decimal) : d.nearest ≤ Binary64.infinite := by
  unfold nearest nearestExact Binary64.nearestPattern
  split
  · exact Nat.le_refl _
  · split
    · exact Nat.zero_le _
    · exact Nat.min_le_right _ _

/-- The double nearest to a decimal, with a given sign. -/
def toBinary64 (negative : Bool) (d : Decimal) : Binary64 :=
  ⟨negative, d.nearest, Nat.lt_of_le_of_lt d.nearest_le Binary64.infinite_lt⟩

end Decimal

end Formulary
