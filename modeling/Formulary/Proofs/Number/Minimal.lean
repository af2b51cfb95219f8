import Formulary.Proofs.Number.Shortest
import Mathlib.Algebra.Order.Floor.Semifield
import Mathlib.Data.Rat.Floor

/-!
# No shorter decimal, and none that is nearer

The search for the shortest decimal looks at two points of each grid, from the coarsest grid on. That is
enough. The values that a number is nearest to have no gaps (`IsNearest.of_between`), so when any point of
a grid reads back, one of the two points around the value does, and the first of them that does is as near
as any (`exists_found`). And every decimal of so many digits is on the grid of so many digits, or stands
beyond a power of ten that is (`exists_gridPoint`).

The search therefore stops at the first number of digits for which there is a decimal at all, with the
nearest one (`shortest_le`, `shortest_nearest`).
-/

set_option autoImplicit false

namespace Formulary

namespace Decimal

/-- The number of digits of a decimal, zeros at the end not counted. -/
def significant (d : Decimal) : Nat :=
  d.reduce.digits.length

theorem significant_le {d : Decimal} {p : Nat} (hp : 0 < p) (few : d.coefficient < 10 ^ p) :
    d.significant ≤ p :=
  (d.reduce.length_digits_le_iff hp).mpr (d.coefficient_reduce_le.trans_lt few)

theorem coefficient_lt_length (d : Decimal) : d.coefficient < 10 ^ d.digits.length :=
  (d.length_digits_le_iff Nat.length_toDigits_pos).mp (Nat.le_refl _)

end Decimal

namespace Binary64

/-! ## Between a value and a decimal -/

/-- The second value is on the way from the first to the third. -/
def Between (v x y : ℚ) : Prop :=
  (v ≤ x ∧ x ≤ y) ∨ (y ≤ x ∧ x ≤ v)

theorem Between.abs_sub_le {v x y : ℚ} (h : Between v x y) : |v - x| ≤ |v - y| := by
  rcases h with ⟨hv, hy⟩ | ⟨hy, hv⟩
  · rw [abs_of_nonpos (by linarith), abs_of_nonpos (by linarith)]
    linarith
  · rw [abs_of_nonneg (by linarith), abs_of_nonneg (by linarith)]
    linarith

theorem between_self (v x : ℚ) : Between v x x := by
  rcases le_total v x with h | h
  · exact .inl ⟨h, le_refl x⟩
  · exact .inr ⟨le_refl x, h⟩

/-- What is between a number and a value that has it as its nearest has it as its nearest, too. -/
theorem IsNearest.of_between {n : Nat} {x y : ℚ} (h : IsNearest y n) (hn : n < infinite)
    (hx : Between (toRat n) x y) : IsNearest x n := by
  have top : toRat n < midpoint n := toRat_lt_midpoint n
  have bottom : n = 0 ∨ midpoint (n - 1) < toRat n := by
    cases n with
    | zero => exact .inl rfl
    | succ n => exact .inr (midpoint_lt_toRat_succ n)
  -- on its own side `x` is inside because `y` is, on the other because the number is
  rcases hx with ⟨hv, hy⟩ | ⟨hy, hv⟩
  · refine ⟨h.le_infinite, ?_, ?_⟩
    · exact bottom.imp_right fun hb => .inl (hb.trans_le hv)
    · rcases h.below with e | hlt | ⟨he, even⟩
      · exact .inl e
      · exact .inr (.inl (hy.trans_lt hlt))
      · rcases lt_or_eq_of_le hy with hlt | rfl
        · exact .inr (.inl (hlt.trans_eq he))
        · exact .inr (.inr ⟨he, even⟩)
  · refine ⟨h.le_infinite, ?_, .inr (.inl (hv.trans_lt top))⟩
    rcases h.above with e | hlt | ⟨he, even⟩
    · exact .inl e
    · exact .inr (.inl (hlt.trans_le hy))
    · rcases lt_or_eq_of_le hy with hlt | rfl
      · exact .inr (.inl (he.trans_lt hlt))
      · exact .inr (.inr ⟨he, even⟩)

theorem coefficient_pos {n : Nat} {d : Decimal} (h : IsNearest d.toRat n) (h0 : 0 < n) :
    0 < d.coefficient := by
  apply Nat.pos_of_ne_zero
  intro zero
  have nonneg : 0 ≤ toRat (n - 1) := by
    rw [toRat]
    positivity
  have below := toRat_lt_midpoint (n - 1)
  rw [(Decimal.toRat_eq_zero_iff d).mpr zero] at h
  rcases h.above with e | hlt | ⟨he, -⟩
  · omega
  · linarith
  · linarith

/-! ## The two points of a grid around a value -/

theorem toRat_mk (m : Nat) (k : Int) : Decimal.toRat ⟨m, k⟩ = m * 10 ^ k := rfl

theorem toRat_eq_mul (n : Nat) (k : Int) : toRat n = toRat n / 10 ^ k * 10 ^ k :=
  (div_mul_cancel₀ _ (zpow_ne_zero k (by norm_num))).symm

theorem floor_bounds (n : Nat) (k : Int) :
    ((gridNum n k / gridDen k : Nat) : ℚ) ≤ toRat n / 10 ^ k ∧
      toRat n / 10 ^ k < (gridNum n k / gridDen k : Nat) + 1 := by
  rw [← gridNum_div_gridDen, ← Nat.floor_div_eq_div (K := ℚ)]
  exact ⟨Nat.floor_le (by positivity), Nat.lt_floor_add_one _⟩

theorem between_gridPoints {n m m' : Nat} {k : Int} (h : Between (toRat n / 10 ^ k) m m') :
    Between (toRat n) (Decimal.toRat ⟨m, k⟩) (Decimal.toRat ⟨m', k⟩) := by
  have power : (0 : ℚ) ≤ 10 ^ k := by positivity
  rw [toRat_mk, toRat_mk, toRat_eq_mul n k]
  rcases h with ⟨hv, hm⟩ | ⟨hm, hv⟩
  · exact .inl ⟨mul_le_mul_of_nonneg_right hv power, mul_le_mul_of_nonneg_right hm power⟩
  · exact .inr ⟨mul_le_mul_of_nonneg_right hm power, mul_le_mul_of_nonneg_right hv power⟩

theorem nearPoint_abs_sub_le (n m : Nat) (k : Int) :
    |toRat n - Decimal.toRat ⟨nearPoint n k, k⟩| ≤ |toRat n - Decimal.toRat ⟨m, k⟩| := by
  have power : (0 : ℚ) < 10 ^ k := by positivity
  obtain ⟨lower, upper⟩ := nearPoint_close n k
  have steps : |toRat n / 10 ^ k - nearPoint n k| ≤ |toRat n / 10 ^ k - m| := by
    rcases Nat.lt_trichotomy m (nearPoint n k) with h | h | h
    · -- a whole step further down
      have step : (m : ℚ) + 1 ≤ nearPoint n k := by exact_mod_cast h
      rw [abs_of_nonneg (show 0 ≤ toRat n / 10 ^ k - m by linarith)]
      exact abs_le.mpr ⟨by linarith, by linarith⟩
    · rw [h]
    · have step : (nearPoint n k : ℚ) + 1 ≤ m := by exact_mod_cast h
      rw [abs_of_nonpos (show toRat n / 10 ^ k - m ≤ 0 by linarith)]
      exact abs_le.mpr ⟨by linarith, by linarith⟩
  rw [toRat_mk, toRat_mk, toRat_eq_mul n k, ← sub_mul, ← sub_mul, abs_mul, abs_mul]
  exact mul_le_mul_of_nonneg_right steps (abs_nonneg _)

/-- If the nearest point of a grid does not read back, all that do are on the other side of the value,
and the far point is the first of them. -/
theorem farPoint_between {n m : Nat} {k : Int} (hn : n < infinite)
    (near : ¬ IsNearest (Decimal.toRat ⟨nearPoint n k, k⟩) n)
    (hm : IsNearest (Decimal.toRat ⟨m, k⟩) n) :
    Between (toRat n) (Decimal.toRat ⟨farPoint n k, k⟩) (Decimal.toRat ⟨m, k⟩) := by
  obtain ⟨lower, upper⟩ := floor_bounds n k
  have beyond : ¬ Between (toRat n / 10 ^ k) (nearPoint n k) m := fun h =>
    near (hm.of_between hn (between_gridPoints h))
  apply between_gridPoints
  rw [farPoint]
  rcases roundQuotient_eq (gridNum n k) (gridDen k) with h | h
  · rw [← nearPoint] at h
    rw [if_pos h, h]
    rw [h] at beyond
    generalize gridNum n k / gridDen k = q at *
    -- the near point is below the value
    have hq : q < m := by
      apply Nat.lt_of_not_le
      intro hle
      exact beyond (.inr ⟨by exact_mod_cast hle, lower⟩)
    push_cast
    exact .inl ⟨upper.le, by exact_mod_cast hq⟩
  · rw [← nearPoint] at h
    rw [if_neg (by omega)]
    rw [h] at beyond
    generalize gridNum n k / gridDen k = q at *
    have hq : m < q + 1 := by
      apply Nat.lt_of_not_le
      intro hle
      refine beyond (.inl ⟨?_, by exact_mod_cast hle⟩)
      push_cast
      exact upper.le
    exact .inr ⟨by exact_mod_cast Nat.le_of_lt_succ hq, lower⟩

/-! ## The search on one grid -/

/-- The point that the search finds with `p + 1` digits. -/
def found (n p : Nat) : Option Decimal :=
  (neighbours n (decade n - p)).find? fun d => d.nearest == n

/-- If any point of the grid reads back, one is found, and it is as near. -/
theorem exists_found {n m p : Nat} (hn : n < infinite)
    (hm : IsNearest (Decimal.toRat ⟨m, decade n - p⟩) n) :
    ∃ d, found n p = some d ∧
      |toRat n - d.toRat| ≤ |toRat n - Decimal.toRat ⟨m, decade n - p⟩| := by
  rw [found, neighbours]
  generalize decade n - (p : Int) = k at *
  by_cases near : Decimal.nearest ⟨nearPoint n k, k⟩ = n
  · exact ⟨_, List.find?_cons_of_pos (by simpa using near), nearPoint_abs_sub_le n m k⟩
  · have between := farPoint_between hn (mt Decimal.nearest_eq_iff.mpr near) hm
    have far := Decimal.nearest_eq_iff.mpr (hm.of_between hn between)
    refine ⟨⟨farPoint n k, k⟩, ?_, between.abs_sub_le⟩
    rw [List.find?_cons_of_neg (by simpa using near)]
    exact List.find?_cons_of_pos (by simpa using far)

/-- A decimal of few digits is a point of their grid, or has one between it and the value. -/
theorem exists_gridPoint {n p : Nat} (h0 : 0 < n) {e : Decimal} (few : e.coefficient < 10 ^ (p + 1)) :
    ∃ m, Between (toRat n) (Decimal.toRat ⟨m, decade n - p⟩) e.toRat := by
  have base : (0 : ℚ) < 10 := by norm_num
  rcases lt_or_ge e.toRat (10 ^ decade n) with h | h
  · -- the power of ten at the bottom of the decade
    have power : Decimal.toRat ⟨10 ^ p, decade n - p⟩ = 10 ^ decade n := by
      rw [toRat_mk, Nat.cast_pow, Nat.cast_ofNat, ← zpow_natCast, ← zpow_add₀ base.ne']
      congr 1
      omega
    refine ⟨10 ^ p, .inr ?_⟩
    rw [power]
    exact ⟨h.le, (decade_bounds h0).1⟩
  · -- a coefficient so small needs an exponent so large
    have large : decade n - p ≤ e.exponent := by
      have few' : (e.coefficient : ℚ) < 10 ^ ((p + 1 : Nat) : Int) := by
        rw [zpow_natCast]
        exact_mod_cast few
      have bound : (10 : ℚ) ^ decade n < 10 ^ (((p + 1 : Nat) : Int) + e.exponent) := by
        calc (10 : ℚ) ^ decade n ≤ e.coefficient * 10 ^ e.exponent := h
          _ < 10 ^ ((p + 1 : Nat) : Int) * 10 ^ e.exponent :=
            mul_lt_mul_of_pos_right few' (by positivity)
          _ = 10 ^ (((p + 1 : Nat) : Int) + e.exponent) := (zpow_add₀ base.ne' _ _).symm
      have exponents := (zpow_lt_zpow_iff_right₀ (by norm_num)).mp bound
      omega
    refine ⟨e.coefficient * 10 ^ (e.exponent - (decade n - p)).toNat, ?_⟩
    rw [toRat_mk, ← Decimal.toRat_eq_mul large]
    exact between_self _ _

/-- Any decimal that reads back is found, or a better one with as many digits. -/
theorem exists_found_of_coefficient_lt {n p : Nat} (h0 : 0 < n) (hn : n < infinite) {e : Decimal}
    (few : e.coefficient < 10 ^ (p + 1)) (he : IsNearest e.toRat n) :
    ∃ d, found n p = some d ∧ |toRat n - d.toRat| ≤ |toRat n - e.toRat| := by
  obtain ⟨m, between⟩ := exists_gridPoint h0 few
  obtain ⟨d, hd, close⟩ := exists_found hn (he.of_between hn between)
  exact ⟨d, hd, close.trans between.abs_sub_le⟩

/-! ## The whole search -/

theorem before_eq_range {n p : Nat} {before after : List Nat}
    (h : List.range n = before ++ p :: after) : before = List.range p := by
  rw [List.range_eq_range', List.range'_eq_append_iff] at h
  obtain ⟨k, -, front, back⟩ := h
  obtain ⟨here, -⟩ := List.range'_eq_cons_iff.mp back.symm
  rw [front, List.range_eq_range', ← here, Nat.zero_add, Nat.mul_one]

theorem exists_found_first {n : Nat} (h0 : 0 < n) (hn : n < infinite) :
    ∃ p d, found n p = some d ∧ (∀ p' < p, found n p' = none) ∧ shortest n = d.reduce := by
  obtain ⟨d₀, mem, reads, -⟩ := exists_shortest h0 hn
  cases search : (candidates n).find? fun d => d.nearest == n with
  | none => exact absurd reads (by simpa using List.find?_eq_none.mp search d₀ mem)
  | some d =>
    have first := search
    rw [candidates, List.find?_flatMap, List.findSome?_eq_some_iff] at first
    obtain ⟨before, p, after, split, hd, none⟩ := first
    refine ⟨p, d, hd, fun p' hp' => none p' ?_, by rw [shortest, search, Option.getD_some]⟩
    rw [before_eq_range split]
    exact List.mem_range.mpr hp'

/-- With fewer digits a decimal would have been found on a coarser grid. -/
theorem lt_length_of_none_found {n p : Nat} (h0 : 0 < n) (hn : n < infinite)
    (none : ∀ p' < p, found n p' = none) {e : Decimal} (he : IsNearest e.toRat n) :
    p < e.digits.length := by
  have few := e.coefficient_lt_length
  apply Nat.lt_of_not_le
  intro fewer
  obtain ⟨q, hq⟩ : ∃ q, e.digits.length = q + 1 :=
    Nat.exists_eq_succ_of_ne_zero Nat.length_toDigits_pos.ne'
  rw [hq] at few fewer
  obtain ⟨d, hd, -⟩ := exists_found_of_coefficient_lt h0 hn few he
  rw [none q fewer] at hd
  contradiction

/-- The first grid on which something is found has as many digits as the shortest decimal. -/
theorem exists_found_shortest {n : Nat} (h0 : 0 < n) (hn : n < infinite) :
    ∃ p d, found n p = some d ∧ (∀ p' < p, found n p' = none) ∧ d.toRat = (shortest n).toRat ∧
      (shortest n).digits.length = p + 1 := by
  obtain ⟨p, d, hd, none, hs⟩ := exists_found_first h0 hn
  have value : (shortest n).toRat = d.toRat := by rw [hs, Decimal.toRat_reduce]
  have reads : IsNearest (shortest n).toRat n := Decimal.nearest_eq_iff.mp (nearest_shortest h0 hn)
  refine ⟨p, d, hd, none, value.symm, Nat.le_antisymm ?_ (lt_length_of_none_found h0 hn none reads)⟩
  refine ((shortest n).length_digits_le_iff (Nat.succ_pos p)).mpr ?_
  rw [hs]
  exact Decimal.coefficient_reduce_lt (coefficient_le_of_mem_grid h0 (List.mem_of_find?_eq_some hd))

/-- No decimal with fewer digits reads back. -/
theorem shortest_le {n : Nat} (h0 : 0 < n) (hn : n < infinite) {e : Decimal}
    (he : IsNearest e.toRat n) : (shortest n).digits.length ≤ e.significant := by
  obtain ⟨p, d, -, none, -, length⟩ := exists_found_shortest h0 hn
  rw [← Decimal.toRat_reduce e] at he
  rw [length]
  exact lt_length_of_none_found h0 hn none he

/-- No decimal with as many digits reads back and is nearer. -/
theorem shortest_nearest {n : Nat} (h0 : 0 < n) (hn : n < infinite) {e : Decimal}
    (he : IsNearest e.toRat n) (as : e.significant = (shortest n).digits.length) :
    |toRat n - (shortest n).toRat| ≤ |toRat n - e.toRat| := by
  obtain ⟨p, d, hd, -, value, length⟩ := exists_found_shortest h0 hn
  have few := e.reduce.coefficient_lt_length
  rw [← Decimal.significant, as, length] at few
  rw [← Decimal.toRat_reduce e] at he ⊢
  obtain ⟨d', hd', close⟩ := exists_found_of_coefficient_lt h0 hn few he
  rwa [← value, Option.some.inj (hd.symm.trans hd')]

end Binary64

end Formulary
