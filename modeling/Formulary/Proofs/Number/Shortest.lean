import Formulary.Number.Shortest
import Formulary.Proofs.Number.Rounding
import Mathlib.Data.Nat.Cast.Order.Field

/-!
# Seventeen digits are enough

The search for the shortest decimal tries up to seventeen digits and falls back to the exact expansion.
The fallback is never taken: with seventeen digits the grid is so fine that its nearest point to a number
is off by less than a part in `2⁵⁴`, and such a point reads back (`nearest_gridPoint`). What the search
answers therefore reads back as the number, and has at most seventeen digits (`nearest_shortest`,
`coefficient_shortest_lt`).

The place of the leading digit comes from the number of digits of a natural number; `decade_bounds` turns
it into the two powers of ten around the value.
-/

set_option autoImplicit false

namespace Formulary

namespace Decimal

/-! ## Taking zeros off -/

theorem toRat_reduce (d : Decimal) : d.reduce.toRat = d.toRat := by
  fun_induction reduce d with
  | case1 d h ih =>
    have hc : (d.coefficient : ℚ) = (d.coefficient / 10 : Nat) * 10 := by
      exact_mod_cast (Nat.div_mul_cancel (Nat.dvd_of_mod_eq_zero h.2)).symm
    rw [ih, toRat, toRat, hc, zpow_add_one₀ (by norm_num)]
    ring
  | case2 d h => rfl

theorem coefficient_reduce_le (d : Decimal) : d.reduce.coefficient ≤ d.coefficient := by
  fun_induction reduce d with
  | case1 d h ih => exact Nat.le_trans ih (Nat.div_le_self _ _)
  | case2 d h => exact Nat.le_refl _

theorem length_digits_le_iff (d : Decimal) {p : Nat} (hp : 0 < p) :
    d.digits.length ≤ p ↔ d.coefficient < 10 ^ p :=
  Nat.length_toDigits_le_iff (by decide) hp

/-- A power of ten itself loses a digit. -/
theorem coefficient_reduce_lt {d : Decimal} {p : Nat} (h : d.coefficient ≤ 10 ^ (p + 1)) :
    d.reduce.coefficient < 10 ^ (p + 1) := by
  have pos : 0 < 10 ^ p := Nat.pow_pos (by decide)
  rw [Nat.pow_succ] at *
  by_cases ends : d.coefficient ≠ 0 ∧ d.coefficient % 10 = 0
  · rw [reduce, dif_pos ends]
    have := coefficient_reduce_le ⟨d.coefficient / 10, d.exponent + 1⟩
    simp only at this
    omega
  · rw [reduce, dif_neg ends]
    omega

end Decimal

namespace Binary64

/-! ## The leading digit -/

theorem length_toDigits_bounds {m : Nat} (h : 0 < m) :
    10 ^ ((Nat.toDigits 10 m).length - 1) ≤ m ∧ m < 10 ^ (Nat.toDigits 10 m).length := by
  have pos : 0 < (Nat.toDigits 10 m).length := Nat.length_toDigits_pos
  have iff {k : Nat} (hk : 0 < k) :=
    Nat.length_toDigits_le_iff (b := 10) (n := m) (by decide) hk
  refine ⟨?_, (iff pos).mp (Nat.le_refl _)⟩
  rcases Nat.eq_zero_or_pos ((Nat.toDigits 10 m).length - 1) with h1 | h1
  · rw [h1]
    exact h
  · exact Nat.le_of_not_lt fun hlt => by
      have := (iff h1).mpr hlt
      omega

theorem units_pos {n : Nat} (h : 0 < n) : 0 < units n :=
  units_strictMono h

theorem decade_bounds {n : Nat} (h : 0 < n) :
    (10 : ℚ) ^ decade n ≤ toRat n ∧ toRat n < 10 ^ (decade n + 1) := by
  have large : Nat.pow 10 324 = 10 ^ 324 := by
    generalize 324 = e
    rfl
  obtain ⟨m, hm⟩ : ∃ m, m = units n * 10 ^ 324 / 2 ^ 1074 := ⟨_, rfl⟩
  have shown : 0 < m := by
    have enough : 2 ^ 1074 ≤ 10 ^ 324 := by decide +kernel
    rw [hm]
    exact Nat.div_pos (Nat.le_trans enough (Nat.le_mul_of_pos_left _ (units_pos h))) (by positivity)
  obtain ⟨lower, upper⟩ := length_toDigits_bounds shown
  have hd : decade n = ((Nat.toDigits 10 m).length : ℤ) - 325 := by
    rw [decade, large, natPow_two_1074, hm]
  have hlen : 0 < (Nat.toDigits 10 m).length := Nat.length_toDigits_pos
  generalize (Nat.toDigits 10 m).length = len at *
  -- `m` is the value times `10 ^ 324`, rounded down
  have scaled : toRat n * 10 ^ 324 = (units n * 10 ^ 324 : Nat) / (2 ^ 1074 : Nat) := by
    rw [toRat, Nat.cast_mul, Nat.cast_pow 2 1074, Nat.cast_pow, Nat.cast_ofNat, Nat.cast_ofNat]
    exact div_mul_eq_mul_div _ _ _
  have below : (m : ℚ) ≤ toRat n * 10 ^ 324 := by
    rw [scaled, hm]
    exact Nat.cast_div_le
  have above : toRat n * 10 ^ 324 < (m : ℚ) + 1 := by
    have hlt : units n * 10 ^ 324 < (m + 1) * 2 ^ 1074 := by
      refine Nat.lt_mul_of_div_lt ?_ (by positivity)
      rw [← hm]
      exact Nat.lt_succ_self m
    rw [scaled, div_lt_iff₀ (by positivity)]
    exact_mod_cast hlt
  have hpos : (0 : ℚ) < 10 ^ 324 := by positivity
  constructor
  · have power : (10 : ℚ) ^ decade n * 10 ^ 324 = (10 ^ (len - 1) : Nat) := by
      rw [Nat.cast_pow, Nat.cast_ofNat, ← zpow_natCast, ← zpow_natCast,
        ← zpow_add₀ (by norm_num), hd]
      congr 1
      omega
    rw [← mul_le_mul_iff_of_pos_right hpos, power]
    exact le_trans (by exact_mod_cast lower) below
  · have power : (10 : ℚ) ^ (decade n + 1) * 10 ^ 324 = (10 ^ len : Nat) := by
      rw [Nat.cast_pow, Nat.cast_ofNat, ← zpow_natCast, ← zpow_natCast,
        ← zpow_add₀ (by norm_num), hd]
      congr 1
      omega
    rw [← mul_lt_mul_iff_of_pos_right hpos, power]
    exact lt_of_lt_of_le above (by exact_mod_cast upper)

/-! ## The grid -/

theorem gridDen_pos (k : Int) : 0 < gridDen k := by
  rw [gridDen, natPow_two_1074, natPow_eq]
  positivity

/-- A value measured in powers of ten. -/
theorem gridNum_div_gridDen (n : Nat) (k : Int) :
    (gridNum n k : ℚ) / gridDen k = toRat n / 10 ^ k := by
  have power : (10 : ℚ) ^ k = 10 ^ k.toNat / 10 ^ (-k).toNat := by
    rw [← zpow_natCast, ← zpow_natCast, ← zpow_sub₀ (by norm_num)]
    congr 1
    omega
  rw [gridNum, gridDen, natPow_two_1074, natPow_eq, natPow_eq, toRat, power, Nat.cast_mul, Nat.cast_mul,
    Nat.cast_pow 2 1074, Nat.cast_pow, Nat.cast_pow, Nat.cast_ofNat, Nat.cast_ofNat]
  field_simp

/-- With `p + 1` digits, the value has as many before the point of the grid. -/
theorem grid_bounds {n : Nat} (h : 0 < n) (p : Nat) :
    (10 : ℚ) ^ p ≤ toRat n / 10 ^ (decade n - p) ∧
      toRat n / 10 ^ (decade n - p) < 10 ^ (p + 1) := by
  obtain ⟨lower, upper⟩ := decade_bounds h
  have hk : (0 : ℚ) < 10 ^ (decade n - p) := by positivity
  constructor
  · have whole : (p : ℤ) + (decade n - p) = decade n := by omega
    rwa [le_div_iff₀ hk, ← zpow_natCast, ← zpow_add₀ (by norm_num), whole]
  · have whole : ((p + 1 : Nat) : ℤ) + (decade n - p) = decade n + 1 := by omega
    rwa [div_lt_iff₀ hk, ← zpow_natCast, ← zpow_add₀ (by norm_num), whole]

theorem roundQuotient_close (num : Nat) {den : Nat} (hd : 0 < den) :
    (num : ℚ) / den - roundQuotient num den ≤ 1 / 2 ∧
      (roundQuotient num den : ℚ) - num / den ≤ 1 / 2 := by
  obtain ⟨⟨up, -⟩, down, -⟩ := two_mul_roundQuotient num hd
  have hdq : (0 : ℚ) < den := by exact_mod_cast hd
  have up' : (2 * num : ℚ) ≤ (2 * roundQuotient num den + 1) * den := by exact_mod_cast up
  have down' : (2 * roundQuotient num den * den : ℚ) ≤ 2 * num + den := by exact_mod_cast down
  have whole : (num : ℚ) = num / den * den := (div_mul_cancel₀ _ hdq.ne').symm
  constructor
  · refine le_of_mul_le_mul_right ?_ hdq
    linarith
  · refine le_of_mul_le_mul_right ?_ hdq
    linarith

/-- The nearest point of a grid is half a step away at most. -/
theorem nearPoint_close (n : Nat) (k : Int) :
    toRat n / 10 ^ k - nearPoint n k ≤ 1 / 2 ∧ nearPoint n k - toRat n / 10 ^ k ≤ 1 / 2 := by
  have close := roundQuotient_close (gridNum n k) (gridDen_pos k)
  rwa [gridNum_div_gridDen, ← nearPoint] at close

/-- The nearest point of a grid with seventeen digits reads back. -/
theorem nearest_gridPoint {n : Nat} (h0 : 0 < n) (h : n < infinite) :
    Decimal.nearest ⟨nearPoint n (decade n - 16), decade n - 16⟩ = n := by
  have fine : (10 : ℚ) ^ 16 ≤ toRat n / 10 ^ (decade n - 16) := (grid_bounds h0 16).1
  obtain ⟨lower, upper⟩ := nearPoint_close n (decade n - 16)
  have hk : (0 : ℚ) < 10 ^ (decade n - 16) := by positivity
  have value : toRat n = toRat n / 10 ^ (decade n - 16) * 10 ^ (decade n - 16) :=
    (div_mul_cancel₀ _ hk.ne').symm
  rw [Decimal.nearest_eq_iff]
  generalize toRat n / 10 ^ (decade n - 16) = x at *
  generalize nearPoint n (decade n - 16) = point at *
  -- half a step of the grid, against a part in `2⁵⁴` of more than `10¹⁶` steps
  have part : (1 : ℚ) / 2 < x / 2 ^ 54 := by
    rw [lt_div_iff₀ (by positivity)]
    refine lt_of_lt_of_le ?_ fine
    norm_num
  refine isNearest_of_close h ?_ ?_
  · rw [Decimal.toRat, value, ← sub_mul, mul_div_right_comm]
    exact mul_lt_mul_of_pos_right (lower.trans_lt part) hk
  · rw [Decimal.toRat, value, ← sub_mul, mul_div_right_comm]
    exact mul_lt_mul_of_pos_right (upper.trans_lt part) hk

/-! ## The search -/

theorem roundQuotient_eq (num den : Nat) :
    roundQuotient num den = num / den ∨ roundQuotient num den = num / den + 1 := by
  unfold roundQuotient
  split
  · exact .inl rfl
  split
  · exact .inr rfl
  · rcases Nat.mod_two_eq_zero_or_one (num / den) with h | h
    · rw [h]
      exact .inl rfl
    · rw [h]
      exact .inr rfl

/-- Both points around a value have at most one more than the whole part of it. -/
theorem coefficient_le_of_mem_neighbours {n : Nat} {k : Int} {d : Decimal}
    (h : d ∈ neighbours n k) : d.coefficient ≤ gridNum n k / gridDen k + 1 := by
  have near := roundQuotient_eq (gridNum n k) (gridDen k)
  rw [← nearPoint] at near
  simp only [neighbours, farPoint, List.mem_cons, List.not_mem_nil, or_false] at h
  generalize nearPoint n k = r at *
  generalize gridNum n k / gridDen k = q at *
  rcases h with rfl | rfl
  · change r ≤ q + 1
    omega
  · change (if r = q then r + 1 else q) ≤ q + 1
    split
    · omega
    · omega

/-- No point of the grid of `p + 1` digits has more digits, apart from the power of ten behind them. -/
theorem coefficient_le_of_mem_grid {n p : Nat} (h0 : 0 < n) {d : Decimal}
    (h : d ∈ neighbours n (decade n - p)) : d.coefficient ≤ 10 ^ (p + 1) := by
  refine Nat.le_trans (coefficient_le_of_mem_neighbours h) ?_
  have cells := (grid_bounds h0 p).2
  rw [← gridNum_div_gridDen, div_lt_iff₀ (by exact_mod_cast gridDen_pos _)] at cells
  have hlt : gridNum n (decade n - p) < 10 ^ (p + 1) * gridDen (decade n - p) := by
    exact_mod_cast cells
  exact (Nat.div_lt_iff_lt_mul (gridDen_pos (decade n - p))).mpr hlt

theorem coefficient_le_of_mem_candidates {n : Nat} (h0 : 0 < n) {d : Decimal}
    (h : d ∈ candidates n) : d.coefficient ≤ 10 ^ maxDigits := by
  obtain ⟨p, hp, hd⟩ := List.mem_flatMap.mp h
  have hp : p < maxDigits := List.mem_range.mp hp
  exact Nat.le_trans (coefficient_le_of_mem_grid h0 hd) (Nat.pow_le_pow_right (by decide) hp)

/-- The search finds a candidate, so the exact expansion is never needed. -/
theorem exists_shortest {n : Nat} (h0 : 0 < n) (h : n < infinite) :
    ∃ d ∈ candidates n, d.nearest = n ∧ shortest n = d.reduce := by
  have last : (⟨nearPoint n (decade n - 16), decade n - 16⟩ : Decimal) ∈ candidates n := by
    refine List.mem_flatMap.mpr ⟨16, by decide, ?_⟩
    exact List.mem_cons_self
  cases found : (candidates n).find? fun d => d.nearest == n with
  | none =>
    have missed := List.find?_eq_none.mp found _ last
    exact absurd (nearest_gridPoint h0 h) (by simpa using missed)
  | some d =>
    refine ⟨d, List.mem_of_find?_eq_some found, by simpa using List.find?_some found, ?_⟩
    rw [shortest, found, Option.getD_some]

/-- The shortest decimal reads back. -/
theorem nearest_shortest {n : Nat} (h0 : 0 < n) (h : n < infinite) : (shortest n).nearest = n := by
  obtain ⟨d, -, hd, hs⟩ := exists_shortest h0 h
  rw [hs, Decimal.nearest_eq_of_toRat_eq (Decimal.toRat_reduce d), hd]

/-- The shortest decimal has at most seventeen digits. -/
theorem coefficient_shortest_lt {n : Nat} (h0 : 0 < n) (h : n < infinite) :
    (shortest n).coefficient < 10 ^ maxDigits := by
  obtain ⟨d, mem, -, hs⟩ := exists_shortest h0 h
  rw [hs]
  exact Decimal.coefficient_reduce_lt (coefficient_le_of_mem_candidates h0 mem)

end Binary64

end Formulary
