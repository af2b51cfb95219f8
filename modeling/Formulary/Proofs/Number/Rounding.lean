import Formulary.Proofs.Number.Nearest
import Mathlib.Tactic.Ring

/-!
# Rounding finds the nearest pattern

`Decimal.nearest` is computed in three steps, and each gets its lemma: a quotient is rounded to a natural
number (`two_mul_roundQuotient`), in the binade where it has 53 bits (`isNearest_nearestPattern`), after
the decimals that are certainly too large or too small have been set aside (`isNearest_of_isHuge`,
`isNearest_of_isTiny`).

The outcome is `nearest_eq_iff`: the pattern of a decimal is the one that is nearest to its value. So
rounding is a function of the value alone, and two spellings of one number have one double
(`nearest_eq_of_toRat_eq`).
-/

set_option autoImplicit false

namespace Formulary

/-! ## Quotients -/

/-- The rounded quotient is off by half at most, and if by half, it is even. -/
theorem two_mul_roundQuotient (num : Nat) {den : Nat} (hd : 0 < den) :
    (2 * num ≤ (2 * roundQuotient num den + 1) * den ∧
      (2 * num = (2 * roundQuotient num den + 1) * den → roundQuotient num den % 2 = 0)) ∧
    (2 * roundQuotient num den * den ≤ 2 * num + den ∧
      (2 * roundQuotient num den * den = 2 * num + den → roundQuotient num den % 2 = 0)) := by
  have split := Nat.div_add_mod num den
  have hlt := Nat.mod_lt num hd
  unfold roundQuotient
  generalize num / den = q at *
  generalize num % den = m at *
  have odd : (2 * q + 1) * den = 2 * (den * q) + den := by ring
  have odd' : (2 * (q + 1) + 1) * den = 2 * (den * q) + 3 * den := by ring
  have even : 2 * q * den = 2 * (den * q) := by ring
  have even' : 2 * (q + 1) * den = 2 * (den * q) + 2 * den := by ring
  split
  · rw [odd, even]
    omega
  split
  · rw [odd', even']
    omega
  · -- a tie: the quotient itself when it is even, and the next one when it is odd
    rcases Nat.mod_two_eq_zero_or_one q with h | h
    · simp only [h, Nat.add_zero, odd, even, implies_true, and_true]
      omega
    · simp only [h, odd', even']
      omega

theorem roundQuotient_le {num den bound : Nat} (h : num < bound * den) :
    roundQuotient num den ≤ bound := by
  have hq : num / den < bound := (Nat.div_lt_iff_lt_mul (by
    rcases Nat.eq_zero_or_pos den with rfl | hd
    · exact absurd h (by simp)
    · exact hd)).mpr h
  unfold roundQuotient
  split
  · omega
  split
  · omega
  · have := Nat.mod_lt (num / den) (Nat.two_pos)
    omega

theorem le_roundQuotient {num den bound : Nat} (hd : 0 < den) (h : bound * den ≤ num) :
    bound ≤ roundQuotient num den := by
  have hq : bound ≤ num / den := (Nat.le_div_iff_mul_le hd).mpr h
  unfold roundQuotient
  split
  · exact hq
  split
  · omega
  · omega

namespace Binary64

/-! ## Binades -/

/-- In its binade a quotient has at most 53 bits, and exactly so many unless the binade is the first. -/
theorem scaleOf_bounds (num : Nat) {den : Nat} (hd : 0 < den) :
    num < 2 ^ 53 * (den * 2 ^ scaleOf num den) ∧
      (scaleOf num den = 0 ∨ 2 ^ 52 * (den * 2 ^ scaleOf num den) ≤ num) := by
  have upper : num / den < 2 ^ ((num / den).log2 + 1) := Nat.lt_log2_self
  have hexp : (num / den).log2 + 1 ≤ 53 + scaleOf num den := by
    unfold scaleOf
    omega
  constructor
  · have hq : num / den < 2 ^ 53 * 2 ^ scaleOf num den := by
      rw [← Nat.pow_add]
      exact Nat.lt_of_lt_of_le upper (Nat.pow_le_pow_right Nat.two_pos hexp)
    have := (Nat.div_lt_iff_lt_mul hd).mp hq
    rwa [Nat.mul_comm den, ← Nat.mul_assoc]
  · by_cases hz : scaleOf num den = 0
    · exact .inl hz
    · refine .inr ?_
      have hne : num / den ≠ 0 := by
        intro h0
        exact hz (by rw [scaleOf, h0]; decide)
      have lower : 2 ^ (num / den).log2 ≤ num / den := Nat.log2_self_le hne
      have hq : 2 ^ 52 * 2 ^ scaleOf num den ≤ num / den := by
        rw [← Nat.pow_add]
        refine Nat.le_trans (Nat.pow_le_pow_right Nat.two_pos ?_) lower
        unfold scaleOf at hz ⊢
        omega
      have := (Nat.le_div_iff_mul_le hd).mp hq
      rwa [Nat.mul_comm den, ← Nat.mul_assoc]

/-- The midpoint above a pattern, in units of half the smallest double. -/
theorem midpoint_eq (n : Nat) : midpoint n = ((units n + units (n + 1) : Nat) : ℚ) / 2 ^ 1075 := by
  rw [midpoint, toRat, toRat, ← add_div, div_div, ← pow_succ, Nat.cast_add]

theorem midpoint_zero : midpoint 0 = 1 / 2 ^ 1075 := by
  have zero : units 0 = 0 := rfl
  have one : units (0 + 1) = 1 := rfl
  rw [midpoint_eq, zero, one, Nat.zero_add, Nat.cast_one]

/-- Without the bound at infinity, the rounded quotient in its binade is the nearest pattern. -/
theorem between_midpoints {num den n : Nat} (hd : 0 < den)
    (hn : n = scaleOf num den * 2 ^ 52 + roundQuotient num (den * 2 ^ scaleOf num den)) :
    (n = 0 ∨ (units (n - 1) + units n) * den < 2 * num ∨
      ((units (n - 1) + units n) * den = 2 * num ∧ n % 2 = 0)) ∧
    (2 * num < (units n + units (n + 1)) * den ∨
      (2 * num = (units n + units (n + 1)) * den ∧ n % 2 = 0)) := by
  have hD : 0 < den * 2 ^ scaleOf num den := Nat.mul_pos hd (Nat.two_pow_pos _)
  obtain ⟨small, large⟩ := scaleOf_bounds num hd
  obtain ⟨⟨up, upTie⟩, down, downTie⟩ := two_mul_roundQuotient num hD
  have hr : roundQuotient num (den * 2 ^ scaleOf num den) ≤ 2 ^ 53 := roundQuotient_le small
  have hr' : scaleOf num den = 0 ∨ 2 ^ 52 ≤ roundQuotient num (den * 2 ^ scaleOf num den) :=
    large.imp_right (le_roundQuotient hD)
  generalize scaleOf num den = e at *
  generalize roundQuotient num (den * 2 ^ e) = r at *
  have hp := Nat.two_pow_pos e
  have un : units n = r * 2 ^ e := hn ▸ units_mul_add hr' hr
  have even : r % 2 = 0 → n % 2 = 0 := by omega
  constructor
  · by_cases seam : e = 0 ∨ 2 ^ 52 < r
    · -- the number below is in the same binade
      by_cases hz : n = 0
      · exact .inl hz
      have hr1 : 1 ≤ r := by omega
      have hn1 : n - 1 = e * 2 ^ 52 + (r - 1) := by omega
      have un1 : units (n - 1) = (r - 1) * 2 ^ e := by
        rw [hn1]
        exact units_mul_add (by omega) (by omega)
      have sum : (units (n - 1) + units n) * den + den * 2 ^ e = 2 * r * (den * 2 ^ e) := by
        obtain ⟨s, rfl⟩ := Nat.exists_eq_add_of_le' hr1
        rw [un, un1, Nat.add_sub_cancel]
        ring
      rcases Nat.lt_or_ge ((units (n - 1) + units n) * den) (2 * num) with h | h
      · exact .inr (.inl h)
      · exact .inr (.inr ⟨by omega, even (downTie (by omega))⟩)
    · -- at the bottom of a binade the number below is nearer than half of this binade's unit
      have he : e ≠ 0 := fun h => seam (.inl h)
      have hle : 2 ^ 52 * (den * 2 ^ e) ≤ num := large.resolve_left he
      have hr52 : r = 2 ^ 52 := by
        rcases hr' with h | h
        · exact absurd h he
        · exact Nat.le_antisymm (Nat.le_of_not_lt fun h => seam (.inr h)) h
      refine .inr (.inl ?_)
      have below : units (n - 1) < units n := units_strictMono (by omega)
      calc (units (n - 1) + units n) * den
          < (units n + units n) * den := Nat.mul_lt_mul_of_pos_right (by omega) hd
        _ = 2 * (2 ^ 52 * (den * 2 ^ e)) := by
          rw [un, hr52]
          ring
        _ ≤ 2 * num := Nat.mul_le_mul_left 2 hle
  · have un1 : (r + 1) * 2 ^ e ≤ units (n + 1) := hn ▸ succ_mul_le_units hr' hr
    have sum : (2 * r + 1) * (den * 2 ^ e) ≤ (units n + units (n + 1)) * den := by
      calc (2 * r + 1) * (den * 2 ^ e) = (r * 2 ^ e + (r + 1) * 2 ^ e) * den := by ring
        _ ≤ (units n + units (n + 1)) * den := Nat.mul_le_mul_right den (by omega)
    rcases Nat.lt_or_ge (2 * num) ((units n + units (n + 1)) * den) with h | h
    · exact .inl h
    · exact .inr ⟨by omega, even (upTie (by omega))⟩

theorem isNearest_nearestPattern {num den : Nat} {q : ℚ} (hd : 0 < den)
    (hq : q = (num : ℚ) / den / 2 ^ 1074) : IsNearest q (nearestPattern num den) := by
  have hdq : (0 : ℚ) < den := by exact_mod_cast hd
  -- a comparison of the value with a midpoint is one of naturals
  have hD : (0 : ℚ) < 2 ^ 1075 * den := by positivity
  have value : q * (2 ^ 1075 * den) = (2 * num : Nat) := by
    rw [hq, Nat.cast_mul, Nat.cast_ofNat, pow_succ]
    field_simp
  have scaled : ∀ n, midpoint n * (2 ^ 1075 * den) = ((units n + units (n + 1)) * den : Nat) := by
    intro n
    rw [midpoint_eq, ← mul_assoc, div_mul_cancel₀ _ (by positivity), Nat.cast_mul]
  have lt_iff : ∀ n, midpoint n < q ↔ (units n + units (n + 1)) * den < 2 * num := by
    intro n
    rw [← mul_lt_mul_iff_of_pos_right hD, scaled, value, Nat.cast_lt]
  have gt_iff : ∀ n, q < midpoint n ↔ 2 * num < (units n + units (n + 1)) * den := by
    intro n
    rw [← mul_lt_mul_iff_of_pos_right hD, scaled, value, Nat.cast_lt]
  have eq_iff : ∀ n, midpoint n = q ↔ (units n + units (n + 1)) * den = 2 * num := by
    intro n
    rw [← mul_left_inj' hD.ne', scaled, value, Nat.cast_inj]
  obtain ⟨n, hn⟩ : ∃ n, n = scaleOf num den * 2 ^ 52 +
      roundQuotient num (den * 2 ^ scaleOf num den) := ⟨_, rfl⟩
  obtain ⟨above, below⟩ := between_midpoints hd hn
  have above' : n = 0 ∨ midpoint (n - 1) < q ∨ (midpoint (n - 1) = q ∧ n % 2 = 0) := by
    by_cases hz : n = 0
    · exact .inl hz
    · obtain ⟨m, rfl⟩ := Nat.exists_eq_succ_of_ne_zero hz
      rw [lt_iff, eq_iff]
      exact above
  rw [nearestPattern, natPow_eq, natPow_eq, ← hn]
  rcases Nat.le_total n infinite with h | h
  · rw [Nat.min_eq_left h]
    refine ⟨h, above', .inr ?_⟩
    rw [gt_iff, eq_comm, eq_iff, eq_comm]
    exact below
  · -- beyond the top, every midpoint on the way is below the value
    rw [Nat.min_eq_right h]
    refine ⟨Nat.le_refl _, ?_, .inl rfl⟩
    rcases Nat.eq_or_lt_of_le h with e | hlt
    · rw [e]
      exact above'
    · have pos : 0 < infinite := by decide
      have step : midpoint (infinite - 1) < midpoint (n - 1) := midpoint_strictMono (by omega)
      rcases above' with e | habove | ⟨habove, -⟩
      · omega
      · exact .inr (.inl (step.trans habove))
      · exact .inr (.inl (step.trans_eq habove))

end Binary64

namespace Decimal

/-! ## Decimals -/

/-- The value of a decimal. -/
def toRat (d : Decimal) : ℚ :=
  d.coefficient * (10 : ℚ) ^ d.exponent

theorem num_div_den (d : Decimal) : (d.num : ℚ) / d.den = d.toRat := by
  rw [num, den, Binary64.natPow_eq, Binary64.natPow_eq, toRat, Nat.cast_mul, Nat.cast_pow,
    Nat.cast_pow, Nat.cast_ofNat, mul_div_assoc, ← zpow_natCast, ← zpow_natCast,
    ← zpow_sub₀ (by norm_num)]
  congr 2
  omega

/-- The value of a decimal in terms of a smaller power of ten. -/
theorem toRat_eq_mul {d : Decimal} {k : Int} (h : k ≤ d.exponent) :
    d.toRat = (d.coefficient * 10 ^ (d.exponent - k).toNat : Nat) * 10 ^ k := by
  rw [toRat, Nat.cast_mul, Nat.cast_pow, Nat.cast_ofNat, mul_assoc, ← zpow_natCast,
    ← zpow_add₀ (by norm_num)]
  congr 2
  omega

theorem toRat_eq_zero_iff (d : Decimal) : d.toRat = 0 ↔ d.coefficient = 0 := by
  have h10 : (10 : ℚ) ^ d.exponent ≠ 0 := zpow_ne_zero _ (by norm_num)
  rw [toRat, mul_eq_zero, Nat.cast_eq_zero]
  simp [h10]

theorem isNearest_nearestExact (d : Decimal) : Binary64.IsNearest d.toRat d.nearestExact := by
  rw [nearestExact, Binary64.natPow_two_1074]
  refine Binary64.isNearest_nearestPattern d.den_pos ?_
  rw [Nat.cast_mul, Nat.cast_pow 2 1074, Nat.cast_ofNat, mul_div_right_comm,
    mul_div_cancel_right₀ _ (pow_ne_zero _ two_ne_zero), num_div_den]

/-- Every decimal that is set aside as huge is nearest to infinity. -/
theorem isNearest_of_isHuge {d : Decimal} (h : d.isHuge = true) :
    Binary64.IsNearest d.toRat Binary64.infinite := by
  simp only [isHuge, Bool.and_eq_true, bne_iff_ne, decide_eq_true_eq] at h
  have coefficient : (1 : ℚ) ≤ d.coefficient := by
    exact_mod_cast Nat.one_le_iff_ne_zero.mpr h.1
  have power : (10 : ℚ) ^ (309 : ℤ) ≤ 10 ^ d.exponent :=
    zpow_le_zpow_right₀ (by norm_num) h.2
  have beyond : (2 : ℚ) ^ 1024 < 10 ^ (309 : ℤ) := by
    have hn : 2 ^ 1024 < 10 ^ 309 := by decide +kernel
    have hq := Nat.cast_lt (α := ℚ).mpr hn
    rwa [Nat.cast_pow, Nat.cast_pow, Nat.cast_ofNat, Nat.cast_ofNat, ← zpow_ofNat 10 309] at hq
  refine ⟨Nat.le_refl _, .inr (.inl ?_), .inl rfl⟩
  calc Binary64.midpoint (Binary64.infinite - 1)
      < Binary64.toRat Binary64.infinite := Binary64.midpoint_lt_toRat_succ _
    _ = 2 ^ 1024 := Binary64.toRat_infinite
    _ < 10 ^ (309 : ℤ) := beyond
    _ ≤ 10 ^ d.exponent := power
    _ = 1 * 10 ^ d.exponent := (one_mul _).symm
    _ ≤ d.toRat := mul_le_mul_of_nonneg_right coefficient (by positivity)

theorem coefficient_lt (d : Decimal) : (d.coefficient : ℚ) < 2 ^ (d.coefficient.log2 + 1) := by
  exact_mod_cast Nat.lt_log2_self (n := d.coefficient)

/-- Every decimal that is set aside as tiny is nearest to zero. -/
theorem isNearest_of_isTiny {d : Decimal} (h : d.isTiny = true) : Binary64.IsNearest d.toRat 0 := by
  refine ⟨Nat.zero_le _, .inl rfl, .inr (.inl ?_)⟩
  simp only [isTiny, Bool.or_eq_true, beq_iff_eq, decide_eq_true_eq] at h
  rw [Binary64.midpoint_zero]
  rcases h with h | h
  · rw [(toRat_eq_zero_iff d).mpr h]
    positivity
  · obtain ⟨k, hk⟩ : ∃ k : ℕ, d.exponent = -(k : ℤ) := ⟨(-d.exponent).toNat, by omega⟩
    have power : (2 : ℚ) ^ (3 * k) ≤ 10 ^ k := by
      rw [pow_mul]
      exact pow_le_pow_left₀ (by norm_num) (by norm_num) k
    have bits : d.coefficient.log2 + 1 + 1075 ≤ 3 * k := by omega
    rw [toRat, hk, zpow_neg, zpow_natCast, ← div_eq_mul_inv, div_lt_div_iff₀ (by positivity)
      (by positivity), one_mul]
    calc (d.coefficient : ℚ) * 2 ^ 1075
        < 2 ^ (d.coefficient.log2 + 1) * 2 ^ 1075 :=
          mul_lt_mul_of_pos_right d.coefficient_lt (by positivity)
      _ = 2 ^ (d.coefficient.log2 + 1 + 1075) := (pow_add _ _ _).symm
      _ ≤ 2 ^ (3 * k) := pow_le_pow_right₀ (by norm_num) bits
      _ ≤ 10 ^ k := power

/-- Rounding finds the pattern nearest to the value. -/
theorem isNearest_nearest (d : Decimal) : Binary64.IsNearest d.toRat d.nearest := by
  unfold nearest
  split
  · next h => exact isNearest_of_isHuge h
  split
  · next h => exact isNearest_of_isTiny h
  · exact isNearest_nearestExact d

theorem nearest_eq_iff {d : Decimal} {n : Nat} : d.nearest = n ↔ Binary64.IsNearest d.toRat n := by
  constructor
  · rintro rfl
    exact isNearest_nearest d
  · exact (isNearest_nearest d).unique

/-- Two decimals of one value have one double. -/
theorem nearest_eq_of_toRat_eq {d e : Decimal} (h : d.toRat = e.toRat) : d.nearest = e.nearest := by
  rw [nearest_eq_iff, h]
  exact isNearest_nearest e

end Decimal

end Formulary
