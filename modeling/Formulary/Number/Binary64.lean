/-!
# Double precision numbers

A double is its sign and its magnitude, and the magnitude is kept as the 63-bit pattern that stores
it: the biased exponent in the high 11 bits, the fraction in the low 52. That choice makes the order
of the finite magnitudes the order of their patterns, makes the neighbours of a number the patterns
one below and one above, and makes "even significand" the same as "even pattern".

The value of a pattern is a natural number of *units*, the smallest positive double `2⁻¹⁰⁷⁴`. The
formula for it also gives a value to the pattern of infinity, namely `2¹⁰²⁴`: the next number that
the format would have if its exponents went on. Rounding and overflow are then one rule.
-/

set_option autoImplicit false

namespace Formulary

/-- A number in the binary64 format. -/
structure Binary64 where
  negative : Bool
  /-- Exponent and fraction bits, as one number. -/
  magnitude : Nat
  /-- There are 63 bits beside the sign. -/
  magnitude_lt : magnitude < Nat.pow 2 63
deriving DecidableEq, Repr

namespace Binary64

/-! ## Patterns -/

/-- The pattern of infinity: all exponent bits set, no fraction. -/
def infinite : Nat :=
  2047 * Nat.pow 2 52

theorem infinite_lt : infinite < Nat.pow 2 63 := by decide

/-- How often the unit is doubled at this pattern: not at all among the subnormal numbers and in the
first binade above them, once more in each binade after that. -/
def scale (n : Nat) : Nat :=
  n / Nat.pow 2 52 - 1

/-- The significand of a pattern, with the leading bit of the normal numbers. -/
def significand (n : Nat) : Nat :=
  n - scale n * Nat.pow 2 52

/-- The value of a pattern, in units of `2⁻¹⁰⁷⁴`. -/
def units (n : Nat) : Nat :=
  significand n * Nat.pow 2 (scale n)

/-! ## Numbers -/

/-- The number is neither an infinity nor a NaN. -/
def isFinite (v : Binary64) : Bool :=
  v.magnitude < infinite

/-- The number is one of the NaNs. -/
def isNaN (v : Binary64) : Bool :=
  infinite < v.magnitude

/-- Infinity of either sign. -/
def infinity (negative : Bool) : Binary64 :=
  ⟨negative, infinite, infinite_lt⟩

/-- The quiet NaN of either sign. -/
def nan (negative : Bool) : Binary64 :=
  ⟨negative, infinite + Nat.pow 2 51, by decide⟩

/-- The number stored in a 64-bit word. -/
def ofBits (w : UInt64) : Binary64 :=
  ⟨Nat.pow 2 63 ≤ w.toNat, w.toNat % Nat.pow 2 63, Nat.mod_lt _ (by decide)⟩

/-- The word that stores a number. -/
def toBits (v : Binary64) : UInt64 :=
  UInt64.ofNat ((if v.negative then Nat.pow 2 63 else 0) + v.magnitude)

end Binary64

end Formulary
