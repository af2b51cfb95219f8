import Formulary.Proofs.Number.Closest
import Formulary.Proofs.Number.Minimal

/-!
# Fifteen digits are kept

Two decimals of at most `p` digits that differ do so by a part in `10 ^ p` at least
(`Decimal.toRat_le_mul_sub`). The values that round to one normal number lie within a part in `2⁵²` of it
(`IsNearest.within`), and `10¹⁵` is less than `2⁵²`. So of the decimals of fifteen digits at most one rounds
to any normal number (`toRat_eq_of_isNearest`), and as the shortest decimal of the number has no more digits
than any that rounds to it, it is that one (`FifteenDigits.toRat_shortest`).

Below the normal numbers this fails: there the numbers are as far apart as the smallest of them.
-/

set_option autoImplicit false

namespace Formulary

/-! ## Decimals -/

namespace Decimal

/-- Decimals of few digits are apart, in proportion to their size. -/
theorem toRat_le_mul_sub {d e : Decimal} {p : Nat} (hd : d.coefficient < 10 ^ p)
    (he : e.coefficient < 10 ^ p) (h : d.toRat < e.toRat) :
    e.toRat ≤ 10 ^ p * (e.toRat - d.toRat) := by
  -- over the smaller power of ten both are whole, and one of them is as it was written
  obtain ⟨k, a, b, ha, hb, few⟩ : ∃ (k : Int) (a b : Nat),
      d.toRat = a * 10 ^ k ∧ e.toRat = b * 10 ^ k ∧ (a < 10 ^ p ∨ b < 10 ^ p) := by
    rcases le_total d.exponent e.exponent with order | order
    · exact ⟨d.exponent, _, _, rfl, toRat_eq_mul order, .inl hd⟩
    · exact ⟨e.exponent, _, _, toRat_eq_mul order, rfl, .inr he⟩
  have power : (0 : ℚ) < 10 ^ k := by positivity
  rw [ha, hb] at h ⊢
  have less : a < b := by exact_mod_cast lt_of_mul_lt_mul_right h power.le
  have small : a < 10 ^ p := few.elim id less.trans
  obtain ⟨c, rfl⟩ := Nat.exists_eq_add_of_lt less
  have gap : a + c + 1 ≤ 10 ^ p * (c + 1) := by
    calc a + c + 1 ≤ (a + 1) * (c + 1) := by
          rw [Nat.add_one_mul, Nat.mul_add_one]
          omega
      _ ≤ 10 ^ p * (c + 1) := Nat.mul_le_mul_right _ small
  have gap' : ((a + c + 1 : Nat) : ℚ) ≤ 10 ^ p * (c + 1) := by exact_mod_cast gap
  have steps : ((a + c + 1 : Nat) : ℚ) - a = c + 1 := by
    push_cast
    ring
  rw [← sub_mul, steps, ← mul_assoc]
  exact mul_le_mul_of_nonneg_right gap' power.le

end Decimal

namespace Binary64

/-! ## Normal numbers -/

variable {q : ℚ} {n : Nat}

theorem spacing_pred_le (n : Nat) : spacing (n - 1) ≤ spacing n := by
  have scales : scale (n - 1) ≤ scale n :=
    Nat.sub_le_sub_right (Nat.div_le_div_right (Nat.sub_le n 1)) 1
  have powers : (2 : ℚ) ^ scale (n - 1) ≤ 2 ^ scale n := pow_le_pow_right₀ one_le_two scales
  exact (div_le_div_iff_of_pos_right (by positivity)).mpr powers

/-- What rounds to a number is at most half of the spacing away. -/
theorem IsNearest.within (h : IsNearest q n) (h0 : n ≠ 0) (hn : n < infinite) :
    toRat n - spacing n / 2 ≤ q ∧ q ≤ toRat n + spacing n / 2 := by
  have lower := h.middle_le (Nat.sub_one_lt h0)
  have upper := h.le_middle (Nat.lt_succ_self n) hn
  have below := toRat_succ (n - 1)
  have finer := spacing_pred_le n
  rw [Nat.sub_add_cancel (Nat.pos_of_ne_zero h0)] at below
  rw [Nat.succ_eq_add_one, toRat_succ] at upper
  exact ⟨by linarith, by linarith⟩

theorem spacing_le_of_normal (normal : 2 ^ 52 ≤ n) : 2 ^ 52 * spacing n ≤ toRat n := by
  have large : 2 ^ 52 ≤ significand n := by
    rcases le_significand n with first | large
    · have parts := scale_mul_add_significand n
      rw [first, Nat.zero_mul, Nat.zero_add] at parts
      rwa [parts]
    · exact large
  have product : 2 ^ 52 * 2 ^ scale n ≤ units n := by
    rw [units, natPow_eq]
    exact Nat.mul_le_mul_right _ large
  rw [toRat, spacing, ← mul_div_assoc]
  exact (div_le_div_iff_of_pos_right (by positivity)).mpr (by exact_mod_cast product)

/-- Of two decimals of fifteen digits only one can round to a normal number. -/
theorem not_lt_of_isNearest (normal : 2 ^ 52 ≤ n) (hn : n < infinite) {d e : Decimal}
    (hd : d.coefficient < 10 ^ 15) (he : e.coefficient < 10 ^ 15) (near : IsNearest d.toRat n)
    (near' : IsNearest e.toRat n) : ¬ d.toRat < e.toRat := by
  intro less
  have h0 : n ≠ 0 := by omega
  obtain ⟨lower, _⟩ := near.within h0 hn
  obtain ⟨lower', upper'⟩ := near'.within h0 hn
  have apart := Decimal.toRat_le_mul_sub hd he less
  have dense := spacing_le_of_normal normal
  have positive := spacing_pos n
  -- the two are one spacing apart at most, and each is about `2⁵²` of them large
  have close : e.toRat - d.toRat ≤ spacing n := by linarith
  have bound : 10 ^ 15 * (e.toRat - d.toRat) ≤ 10 ^ 15 * spacing n :=
    mul_le_mul_of_nonneg_left close (by positivity)
  norm_num at apart dense bound
  linarith

theorem toRat_eq_of_isNearest (normal : 2 ^ 52 ≤ n) (hn : n < infinite) {d e : Decimal}
    (hd : d.coefficient < 10 ^ 15) (he : e.coefficient < 10 ^ 15) (near : IsNearest d.toRat n)
    (near' : IsNearest e.toRat n) : d.toRat = e.toRat :=
  le_antisymm (not_lt.mp (not_lt_of_isNearest normal hn he hd near' near))
    (not_lt.mp (not_lt_of_isNearest normal hn hd he near near'))

/-! ## What is read back -/

/-- The value can be written in fifteen digits, and is in the range of the normal numbers. -/
structure FifteenDigits (q : ℚ) : Prop where
  few : ∃ d : Decimal, d.coefficient < 10 ^ 15 ∧ d.toRat = q
  lower : 1 / 2 ^ 1022 ≤ q
  upper : q ≤ 2 ^ 1024 - 2 ^ 971

theorem FifteenDigits.normal (h : FifteenDigits q) (near : IsNearest q n) :
    2 ^ 52 ≤ n ∧ n < infinite := by
  constructor
  · have seam : (1 / 2 ^ 1022 - 1 / 2 ^ 1075 : ℚ) < 1 / 2 ^ 1022 := sub_lt_self _ (by positivity)
    apply Nat.le_of_not_lt
    intro subnormal
    exact absurd h.lower (not_le_of_gt ((near.lt_normal_iff.mp subnormal).trans seam))
  · have gap : (2 : ℚ) ^ 970 < 2 ^ 971 := pow_lt_pow_right₀ one_lt_two (by decide)
    exact near.lt_infinite_iff.mpr (h.upper.trans_lt (sub_lt_sub_left gap _))

/-- The decimal that such a value is written as has the value. -/
theorem FifteenDigits.toRat_shortest (h : FifteenDigits q) (near : IsNearest q n) :
    (shortest n).toRat = q := by
  obtain ⟨normal, hn⟩ := h.normal near
  have h0 : 0 < n := by omega
  obtain ⟨d, few, rfl⟩ := h.few
  have reads := Decimal.nearest_eq_iff.mp (nearest_shortest h0 hn)
  -- the shortest decimal has no more digits than the one given
  have fewer : (shortest n).digits.length ≤ 15 :=
    (shortest_le h0 hn near).trans (Decimal.significant_le (by decide) few)
  have few' := ((shortest n).length_digits_le_iff (by decide)).mp fewer
  exact toRat_eq_of_isNearest normal hn few' few reads near

end Binary64

end Formulary
