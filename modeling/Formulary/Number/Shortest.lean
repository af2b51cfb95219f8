import Formulary.Number.Rounding

/-!
# The shortest decimal of a double

A double is written with the fewest significant digits that read back as the same double; of the
decimals with that many digits that do, the nearest to the double is taken, and of two equally near
ones the one with the even last digit.

The search is the definition. With `p` digits, the decimals around a value lie on a grid of spacing
`10 ^ (decade - p + 1)`, and only the two grid points around the value can be nearest. So the
candidates are listed with the fewest digits first and the nearer grid point before the other, and
the first one that reads back is the answer. Reading back is rounding, as in
`Formulary.Number.Rounding`: no interval is computed here. Seventeen digits are enough for every
double; the exact expansion stands behind them only so that the function is total without a proof.
-/

set_option autoImplicit false

namespace Formulary.Binary64

/-- The position of the leading decimal digit of a finite pattern other than zero: the value is at
least `10 ^ decade` and less than `10 ^ (decade + 1)`. The smallest double is above `10⁻³²⁴`, so the
digits of the value times `10³²⁴` show it. -/
def decade (n : Nat) : Int :=
  ((Nat.toDigits 10 (units n * Nat.pow 10 324 / Nat.pow 2 1074)).length : Int) - 325

/-- Numerator of the value of a pattern, measured in powers `10 ^ k`. -/
def gridNum (n : Nat) (k : Int) : Nat :=
  units n * Nat.pow 10 (-k).toNat

/-- Denominator of the value of a pattern, measured in powers `10 ^ k`. -/
def gridDen (k : Int) : Nat :=
  Nat.pow 2 1074 * Nat.pow 10 k.toNat

/-- The multiple of `10 ^ k` nearest to the value, an exact half going to the even multiple. -/
def nearPoint (n : Nat) (k : Int) : Nat :=
  roundQuotient (gridNum n k) (gridDen k)

/-- The multiple of `10 ^ k` on the other side of the value. -/
def farPoint (n : Nat) (k : Int) : Nat :=
  if nearPoint n k = gridNum n k / gridDen k then nearPoint n k + 1 else gridNum n k / gridDen k

/-- The two grid points around a value, the nearer one first. -/
def neighbours (n : Nat) (k : Int) : List Decimal :=
  [⟨nearPoint n k, k⟩, ⟨farPoint n k, k⟩]

/-- The most significant digits that a double can need. -/
def maxDigits : Nat :=
  17

/-- All decimals that may stand for a pattern, the preferred ones first. -/
def candidates (n : Nat) : List Decimal :=
  (List.range maxDigits).flatMap fun p : Nat => neighbours n (decade n - (p : Int))

/-- The value of a pattern with all its digits: `2⁻¹⁰⁷⁴` is `5¹⁰⁷⁴ · 10⁻¹⁰⁷⁴`. -/
def expansion (n : Nat) : Decimal :=
  ⟨units n * Nat.pow 5 1074, -1074⟩

/-- The shortest decimal that reads back as the pattern. -/
def shortest (n : Nat) : Decimal :=
  (((candidates n).find? fun d => d.nearest == n).getD (expansion n)).reduce

end Formulary.Binary64
