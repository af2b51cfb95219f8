import Formulary.Number.Rounding
import Mathlib.Algebra.Order.Field.Power
import Mathlib.Algebra.Order.Field.Rat
import Mathlib.Order.Monotone.Basic
import Mathlib.Tactic.FieldSimp
import Mathlib.Tactic.Linarith
import Mathlib.Tactic.NormNum
import Mathlib.Tactic.Positivity

/-!
# Which pattern is nearest

The rounding rule is computed on a quotient of naturals. This file gives it a meaning in terms of values:
`IsNearest q n` holds when the rational `q` lies between the midpoint below the pattern `n` and the one
above it, a midpoint itself belonging to the even one of its two neighbours. No `q` has two such patterns
(`IsNearest.unique`).

Whatever is close to a number relative to its size has it as its nearest (`isNearest_of_close`). A part
in `2⁵⁴` is close enough everywhere, also at the bottom of a binade, where the midpoint below is at half
the distance.

The three regimes of the format do not appear. A pattern is `scale * 2⁵² + significand`, the next one is
`2 ^ scale` units further (`units_succ`), and that holds among the subnormal numbers, at every seam and
at the top, where the pattern of infinity has the value that would come next.
-/

set_option autoImplicit false

namespace Formulary

namespace Binary64

/-! ## Units -/

/-- The definitions take powers of naturals as such, the lemmas about powers take those of a monoid. -/
theorem natPow_eq (b e : Nat) : Nat.pow b e = b ^ e := rfl

theorem natPow_two_1074 : Nat.pow 2 1074 = 2 ^ 1074 := by
  -- the exponent is hidden, or unification would evaluate the power
  generalize 1074 = e
  rfl

theorem scale_mul_add_significand (n : Nat) : scale n * 2 ^ 52 + significand n = n := by
  rw [significand, scale, natPow_eq]
  omega

theorem significand_lt (n : Nat) : significand n < 2 ^ 53 := by
  rw [significand, scale, natPow_eq]
  omega

theorem le_significand (n : Nat) : scale n = 0 ∨ 2 ^ 52 ≤ significand n := by
  rw [significand, scale, natPow_eq]
  omega

/-- A pattern from its parts. The significand may be one too large: it then carries into the scale. -/
theorem units_mul_add {e r : Nat} (h : e = 0 ∨ 2 ^ 52 ≤ r) (hr : r ≤ 2 ^ 53) :
    units (e * 2 ^ 52 + r) = r * 2 ^ e := by
  by_cases carry : r = 2 ^ 53
  · -- twice the significand and half the unit
    have hs : scale (e * 2 ^ 52 + r) = e + 1 := by
      rw [scale, natPow_eq]
      omega
    have hm : significand (e * 2 ^ 52 + r) = 2 ^ 52 := by
      rw [significand, hs, natPow_eq]
      omega
    rw [units, hs, hm, natPow_eq, carry, Nat.pow_succ]
    omega
  · have hs : scale (e * 2 ^ 52 + r) = e := by
      rw [scale, natPow_eq]
      omega
    have hm : significand (e * 2 ^ 52 + r) = r := by
      rw [significand, hs, natPow_eq]
      omega
    rw [units, hs, hm, natPow_eq]

/-- The next number is one unit of its binade away. -/
theorem units_succ (n : Nat) : units (n + 1) = units n + 2 ^ scale n := by
  have hn : n + 1 = scale n * 2 ^ 52 + (significand n + 1) := by
    rw [← Nat.add_assoc, scale_mul_add_significand]
  have hr : scale n = 0 ∨ 2 ^ 52 ≤ significand n + 1 := by
    rcases le_significand n with h | h
    · exact .inl h
    · exact .inr (Nat.le_succ_of_le h)
  rw [hn, units_mul_add hr (significand_lt n), Nat.succ_mul, units, natPow_eq]

theorem units_strictMono : StrictMono units := by
  refine strictMono_nat_of_lt_succ fun n => ?_
  rw [units_succ]
  exact Nat.lt_add_of_pos_right (Nat.two_pow_pos _)

/-- The number above a pattern in its parts, also when the significand has to carry on the way. -/
theorem succ_mul_le_units {e r : Nat} (h : e = 0 ∨ 2 ^ 52 ≤ r) (hr : r ≤ 2 ^ 53) :
    (r + 1) * 2 ^ e ≤ units (e * 2 ^ 52 + r + 1) := by
  by_cases carry : r = 2 ^ 53
  · have hs : scale (e * 2 ^ 52 + r) = e + 1 := by
      rw [scale, natPow_eq]
      omega
    rw [units_succ, units_mul_add h hr, hs, Nat.succ_mul, Nat.pow_succ]
    omega
  · rw [Nat.add_assoc, units_mul_add (by omega) (by omega)]

theorem units_infinite : units infinite = 2 ^ 1024 * 2 ^ 1074 := by
  decide +kernel

/-- The distance to the number above is at least a part in `2⁵³`. -/
theorem units_lt_up (n : Nat) : units n < 2 ^ 53 * (units (n + 1) - units n) := by
  rw [units_succ, Nat.add_sub_cancel_left, units, natPow_eq]
  exact Nat.mul_lt_mul_of_pos_right (significand_lt n) (Nat.two_pow_pos _)

/-- The distance to the number below is at least a part in `2⁵³`, and just that at the bottom of a
binade. -/
theorem units_le_down (n : Nat) : units (n + 1) ≤ 2 ^ 53 * (units (n + 1) - units n) := by
  rw [units_succ, Nat.add_sub_cancel_left, units, natPow_eq, ← Nat.succ_mul]
  exact Nat.mul_le_mul_right _ (significand_lt n)

/-! ## Values -/

/-- The value of a pattern. -/
def toRat (n : Nat) : ℚ :=
  units n / 2 ^ 1074

/-- The value half way between a pattern and the next one. -/
def midpoint (n : Nat) : ℚ :=
  (toRat n + toRat (n + 1)) / 2

/-- Of the values between two midpoints, the pattern in the middle is the nearest; a midpoint goes to the
even one of its neighbours. Nothing is below zero, and nothing ends the values of infinity. -/
structure IsNearest (q : ℚ) (n : Nat) : Prop where
  le_infinite : n ≤ infinite
  above : n = 0 ∨ midpoint (n - 1) < q ∨ (midpoint (n - 1) = q ∧ n % 2 = 0)
  below : n = infinite ∨ q < midpoint n ∨ (q = midpoint n ∧ n % 2 = 0)

theorem toRat_strictMono : StrictMono toRat := by
  intro m n h
  have hu : (units m : ℚ) < units n := by exact_mod_cast units_strictMono h
  exact (div_lt_div_iff_of_pos_right (by positivity)).mpr hu

theorem toRat_lt_midpoint (n : Nat) : toRat n < midpoint n := by
  have h := toRat_strictMono (Nat.lt_succ_self n)
  rw [midpoint]
  linarith

theorem midpoint_lt_toRat_succ (n : Nat) : midpoint n < toRat (n + 1) := by
  have h := toRat_strictMono (Nat.lt_succ_self n)
  rw [midpoint]
  linarith

theorem midpoint_strictMono : StrictMono midpoint :=
  strictMono_nat_of_lt_succ fun n =>
    (midpoint_lt_toRat_succ n).trans (toRat_lt_midpoint (n + 1))

theorem toRat_infinite : toRat infinite = 2 ^ 1024 := by
  rw [toRat, units_infinite, Nat.cast_mul, Nat.cast_pow, Nat.cast_pow, Nat.cast_ofNat]
  exact mul_div_cancel_right₀ _ (by positivity)

theorem toRat_succ_sub (n : Nat) :
    toRat (n + 1) - toRat n = (units (n + 1) - units n : Nat) / 2 ^ 1074 := by
  rw [toRat, toRat, ← sub_div, Nat.cast_sub (units_strictMono (Nat.lt_succ_self n)).le]

theorem toRat_lt_up (n : Nat) : toRat n < 2 ^ 53 * (toRat (n + 1) - toRat n) := by
  rw [toRat_succ_sub, toRat, ← mul_div_assoc]
  exact (div_lt_div_iff_of_pos_right (by positivity)).mpr (by exact_mod_cast units_lt_up n)

theorem toRat_le_down (n : Nat) : toRat (n + 1) ≤ 2 ^ 53 * (toRat (n + 1) - toRat n) := by
  rw [toRat_succ_sub, toRat, ← mul_div_assoc]
  exact (div_le_div_iff_of_pos_right (by positivity)).mpr (by exact_mod_cast units_le_down n)

/-- Two patterns that are both nearest are one. -/
theorem IsNearest.unique {q : ℚ} {m n : Nat} (hm : IsNearest q m) (hn : IsNearest q n) : m = n := by
  -- if the smaller pattern ended below the larger one, a midpoint between them would be both
  have ordered : ∀ {m n : Nat}, IsNearest q m → IsNearest q n → ¬ m < n := by
    intro m n hm hn h
    have upper : q ≤ midpoint m ∧ (q = midpoint m → m % 2 = 0) := by
      rcases hm.below with e | hlt | ⟨he, hp⟩
      · have := hn.le_infinite
        omega
      · exact ⟨hlt.le, fun he => absurd he hlt.ne⟩
      · exact ⟨he.le, fun _ => hp⟩
    have lower : midpoint (n - 1) ≤ q ∧ (midpoint (n - 1) = q → n % 2 = 0) := by
      rcases hn.above with e | hlt | ⟨he, hp⟩
      · omega
      · exact ⟨hlt.le, fun he => absurd he hlt.ne⟩
      · exact ⟨he.le, fun _ => hp⟩
    have hle : n - 1 ≤ m := midpoint_strictMono.le_iff_le.mp (lower.1.trans upper.1)
    obtain rfl : n = m + 1 := by omega
    rw [Nat.add_sub_cancel] at lower
    have hq : q = midpoint m := le_antisymm upper.1 lower.1
    have even := upper.2 hq
    have even' := lower.2 hq.symm
    omega
  rcases Nat.lt_trichotomy m n with h | h | h
  · exact absurd h (ordered hm hn)
  · exact h
  · exact absurd h (ordered hn hm)

/-- What differs from a number by less than a part in `2⁵⁴` has it as its nearest. -/
theorem isNearest_of_close {q : ℚ} {n : Nat} (h : n < infinite)
    (lower : toRat n - q < toRat n / 2 ^ 54) (upper : q - toRat n < toRat n / 2 ^ 54) :
    IsNearest q n := by
  refine ⟨h.le, ?_, .inr (.inl ?_)⟩
  · cases n with
    | zero => exact .inl rfl
    | succ n =>
      have gap := toRat_le_down n
      rw [Nat.add_sub_cancel, midpoint]
      exact .inr (.inl (by linarith))
  · have gap := toRat_lt_up n
    rw [midpoint]
    linarith

end Binary64

end Formulary
