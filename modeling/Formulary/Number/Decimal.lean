/-!
# Decimals

A decimal is a natural coefficient times a power of ten: what a numeric literal denotes before it is
rounded, and what the printer of numbers finally writes. Its value is kept as a fraction of two
naturals, `num / den`, so that every later question about it (is it below, is it nearest) is a
question about naturals.

One value has many decimals (`5`, `50 · 10⁻¹`); `reduce` picks the one whose coefficient does not end
in a zero.
-/

set_option autoImplicit false

namespace Formulary

/-- The number `coefficient · 10 ^ exponent`. -/
structure Decimal where
  /-- The digits, read as one natural number. -/
  coefficient : Nat
  /-- The power of ten they are scaled by. -/
  exponent : Int
deriving DecidableEq, Repr

namespace Decimal

/-- Numerator of the value: the coefficient with the positive part of the power of ten. -/
def num (d : Decimal) : Nat :=
  d.coefficient * Nat.pow 10 d.exponent.toNat

/-- Denominator of the value: the negative part of the power of ten. -/
def den (d : Decimal) : Nat :=
  Nat.pow 10 (-d.exponent).toNat

theorem den_pos (d : Decimal) : 0 < d.den :=
  Nat.pow_pos (by decide)

/-- The decimal of the same value whose coefficient does not end in a zero; a zero stays as it is. -/
def reduce (d : Decimal) : Decimal :=
  if h : d.coefficient ≠ 0 ∧ d.coefficient % 10 = 0 then
    reduce ⟨d.coefficient / 10, d.exponent + 1⟩
  else d
termination_by d.coefficient
decreasing_by exact Nat.div_lt_self (Nat.pos_of_ne_zero h.1) (by decide)

/-- The digits of the coefficient, most significant first; `0` has the one digit `0`. -/
def digits (d : Decimal) : List Char :=
  Nat.toDigits 10 d.coefficient

end Decimal

/-- The natural number that a run of decimal digits writes; no digit at all writes `0`. -/
def natOfDigits (ds : List Char) : Nat :=
  Nat.ofDigitChars 10 ds 0

end Formulary
