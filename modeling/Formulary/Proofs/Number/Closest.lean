import Formulary.Proofs.Number.Rounding

/-!
# The nearest number, by distances and by bounds

Rounding was described by midpoints (`IsNearest`), and there are two other ways to look at it.

*By distances*: no number of the format is closer, and a number that is only as close has an odd
significand beside an even one (`isNearest_iff_closest`). Infinity takes part with the value `2¹⁰²⁴`
that would come next.

*By bounds*: to round to a pattern or to one below it is to lie below the midpoint behind it
(`IsNearest.le_iff`). Every seam of the format is such a bound. Zero, the subnormal numbers and the
finite numbers are each the patterns up to some pattern, so what rounds to one of them is settled by one
comparison (`IsNearest.eq_zero_iff`, `IsNearest.lt_normal_iff`, `IsNearest.lt_infinite_iff`).
-/

set_option autoImplicit false

namespace Formulary

/-- Of two values, the lower one is as close as the upper one up to the middle between them. -/
theorem abs_sub_le_abs_sub_iff_le {q a b : ℚ} (h : a < b) :
    |q - a| ≤ |q - b| ↔ q ≤ (a + b) / 2 := by
  constructor
  · intro closer
    rcases abs_cases (q - a) with ⟨ha, _⟩ | ⟨ha, _⟩
    · rcases abs_cases (q - b) with ⟨hb, _⟩ | ⟨hb, _⟩
      · linarith
      · linarith
    · linarith
  · intro low
    have hb : |q - b| = b - q := by
      rw [abs_of_nonpos (by linarith)]
      ring
    rw [hb]
    apply abs_le.mpr
    exact ⟨by linarith, by linarith⟩

theorem abs_sub_le_abs_sub_iff_ge {q a b : ℚ} (h : a < b) :
    |q - b| ≤ |q - a| ↔ (a + b) / 2 ≤ q := by
  constructor
  · intro closer
    rcases abs_cases (q - b) with ⟨hb, _⟩ | ⟨hb, _⟩
    · linarith
    · rcases abs_cases (q - a) with ⟨ha, _⟩ | ⟨ha, _⟩
      · linarith
      · linarith
  · intro high
    have ha : |q - a| = q - a := abs_of_nonneg (by linarith)
    rw [ha]
    apply abs_le.mpr
    exact ⟨by linarith, by linarith⟩

namespace Binary64

/-! ## Distances -/

/-- No number of the format is closer, and where another one is as close, the significand is even. -/
structure Closest (q : ℚ) (n : Nat) : Prop where
  le_infinite : n ≤ infinite
  closest : ∀ m ≤ infinite, |q - toRat n| ≤ |q - toRat m|
  even : ∀ m ≤ infinite, m ≠ n → |q - toRat m| = |q - toRat n| → significand n % 2 = 0

theorem significand_mod_two (n : Nat) : significand n % 2 = n % 2 := by
  have parts := scale_mul_add_significand n
  omega

variable {q : ℚ} {m n : Nat}

theorem midpoint_pred (h : n ≠ 0) : midpoint (n - 1) = (toRat (n - 1) + toRat n) / 2 := by
  rw [midpoint, Nat.sub_add_cancel (Nat.pos_of_ne_zero h)]

/-- Numbers further down do not come closer than the midpoint below. -/
theorem IsNearest.middle_le (h : IsNearest q n) (hm : m < n) : (toRat m + toRat n) / 2 ≤ q := by
  have positive : n ≠ 0 := Nat.ne_zero_of_lt hm
  have step : toRat m ≤ toRat (n - 1) := toRat_strictMono.monotone (Nat.le_sub_one_of_lt hm)
  have below : midpoint (n - 1) ≤ q := by
    rcases h.above with zero | above | ⟨tie, _⟩
    · exact absurd zero positive
    · exact above.le
    · exact tie.le
  rw [midpoint_pred positive] at below
  linarith

theorem IsNearest.le_middle (h : IsNearest q n) (hn : n < m) (hm : m ≤ infinite) :
    q ≤ (toRat n + toRat m) / 2 := by
  have step : toRat (n + 1) ≤ toRat m := toRat_strictMono.monotone hn
  have above : q ≤ midpoint n := by
    rcases h.below with top | below | ⟨tie, _⟩
    · omega
    · exact below.le
    · exact tie.le
  rw [midpoint] at above
  linarith

theorem IsNearest.abs_sub_le (h : IsNearest q n) (hm : m ≤ infinite) :
    |q - toRat n| ≤ |q - toRat m| := by
  rcases Nat.lt_trichotomy m n with lower | same | upper
  · exact (abs_sub_le_abs_sub_iff_ge (toRat_strictMono lower)).mpr (h.middle_le lower)
  · rw [same]
  · exact (abs_sub_le_abs_sub_iff_le (toRat_strictMono upper)).mpr (h.le_middle upper hm)

/-- Another number is only as close when the value is a midpoint, which goes to the even pattern. -/
theorem IsNearest.even_of_tie (h : IsNearest q n) (hm : m ≤ infinite) (other : m ≠ n)
    (tie : |q - toRat m| = |q - toRat n|) : n % 2 = 0 := by
  rcases Nat.lt_or_gt_of_ne other with lower | upper
  · have middle := (abs_sub_le_abs_sub_iff_le (toRat_strictMono lower)).mp tie.le
    have step : toRat m ≤ toRat (n - 1) := toRat_strictMono.monotone (Nat.le_sub_one_of_lt lower)
    rcases h.above with zero | above | ⟨_, even⟩
    · omega
    · rw [midpoint_pred (Nat.ne_zero_of_lt lower)] at above
      linarith
    · exact even
  · have middle := (abs_sub_le_abs_sub_iff_ge (toRat_strictMono upper)).mp tie.le
    have step : toRat (n + 1) ≤ toRat m := toRat_strictMono.monotone upper
    rcases h.below with top | below | ⟨_, even⟩
    · omega
    · rw [midpoint] at below
      linarith
    · exact even

/-- To lie between the midpoints is to be closest, and the even pattern has the even significand. -/
theorem isNearest_iff_closest : IsNearest q n ↔ Closest q n := by
  constructor
  · intro h
    refine ⟨h.le_infinite, fun m hm => h.abs_sub_le hm, fun m hm other tie => ?_⟩
    rw [significand_mod_two]
    exact h.even_of_tie hm other tie
  · intro h
    refine ⟨h.le_infinite, ?_, ?_⟩
    · by_cases zero : n = 0
      · exact .inl zero
      -- the neighbour below is not closer
      have bound : n - 1 ≤ infinite := (Nat.sub_le n 1).trans h.le_infinite
      have order : toRat (n - 1) < toRat n := toRat_strictMono (Nat.sub_one_lt zero)
      have middle := (abs_sub_le_abs_sub_iff_ge order).mp (h.closest (n - 1) bound)
      rw [midpoint_pred zero]
      rcases lt_or_eq_of_le middle with above | tie
      · exact .inr (.inl above)
      · have equal := le_antisymm ((abs_sub_le_abs_sub_iff_le order).mpr tie.ge)
          (h.closest (n - 1) bound)
        have even := h.even (n - 1) bound (Nat.sub_one_lt zero).ne equal
        exact .inr (.inr ⟨tie, significand_mod_two n ▸ even⟩)
    · by_cases top : n = infinite
      · exact .inl top
      have bound : n + 1 ≤ infinite := Nat.lt_of_le_of_ne h.le_infinite top
      have order : toRat n < toRat (n + 1) := toRat_strictMono (Nat.lt_succ_self n)
      have middle := (abs_sub_le_abs_sub_iff_le order).mp (h.closest (n + 1) bound)
      rw [midpoint]
      rcases lt_or_eq_of_le middle with below | tie
      · exact .inr (.inl below)
      · have equal := le_antisymm ((abs_sub_le_abs_sub_iff_ge order).mpr tie.ge)
          (h.closest (n + 1) bound)
        have even := h.even (n + 1) bound (Nat.succ_ne_self n) equal
        exact .inr (.inr ⟨tie, significand_mod_two n ▸ even⟩)

/-! ## Bounds -/

/-- What rounds to at most `m` is what lies below the midpoint behind `m`, or on it if `m` is even. -/
theorem IsNearest.le_iff (h : IsNearest q n) (hm : m < infinite) :
    n ≤ m ↔ q < midpoint m ∨ (q = midpoint m ∧ m % 2 = 0) := by
  constructor
  · intro le
    have order : midpoint n ≤ midpoint m := midpoint_strictMono.monotone le
    rcases h.below with top | below | ⟨tie, even⟩
    · omega
    · exact .inl (below.trans_le order)
    · rcases Nat.eq_or_lt_of_le le with same | less
      · rw [← same]
        exact .inr ⟨tie, even⟩
      · exact .inl (tie.trans_lt (midpoint_strictMono less))
  · intro low
    apply Nat.le_of_not_lt
    intro less
    have order : midpoint m ≤ midpoint (n - 1) :=
      midpoint_strictMono.monotone (Nat.le_sub_one_of_lt less)
    rcases h.above with zero | above | ⟨tie, even⟩
    · omega
    · rcases low with below | ⟨same, _⟩
      · linarith
      · linarith
    · rcases low with below | ⟨same, even'⟩
      · linarith
      · -- two neighbouring patterns cannot both be even
        have index : m = n - 1 := midpoint_strictMono.injective (by linarith)
        omega

/-! ## Spacing -/

/-- The distance from a number to the one above. -/
def spacing (n : Nat) : ℚ :=
  2 ^ scale n / 2 ^ 1074

theorem toRat_succ (n : Nat) : toRat (n + 1) = toRat n + spacing n := by
  have gap := toRat_succ_sub n
  rw [units_succ, Nat.add_sub_cancel_left, Nat.cast_pow, Nat.cast_ofNat, ← spacing] at gap
  linarith

theorem spacing_pos (n : Nat) : 0 < spacing n := by
  have step := toRat_strictMono (Nat.lt_succ_self n)
  rw [toRat_succ] at step
  linarith

theorem midpoint_eq_sub (n : Nat) : midpoint n = toRat (n + 1) - spacing n / 2 := by
  rw [midpoint, toRat_succ]
  ring

/-- Up to the second binade of the normal numbers the value of a pattern is the pattern in units. -/
theorem toRat_of_le (h : n ≤ 2 ^ 53) : toRat n = n / 2 ^ 1074 := by
  have value := units_mul_add (.inl rfl) h
  rw [Nat.zero_mul, Nat.zero_add, Nat.pow_zero, Nat.mul_one] at value
  rw [toRat, value]

/-! ## The seams of the format -/

theorem toRat_normal : toRat (2 ^ 52) = 1 / 2 ^ 1022 := by
  have power : (2 : ℚ) ^ 1074 = 2 ^ 52 * 2 ^ 1022 := pow_add 2 52 1022
  rw [toRat_of_le (by decide), Nat.cast_pow, Nat.cast_ofNat, power, div_mul_eq_div_div,
    div_self (by positivity)]

theorem midpoint_below_normal : midpoint (2 ^ 52 - 1) = 1 / 2 ^ 1022 - 1 / 2 ^ 1075 := by
  have next : 2 ^ 52 - 1 + 1 = 2 ^ 52 := by decide
  have unit : spacing (2 ^ 52 - 1) = 1 / 2 ^ 1074 := congrArg (· / 2 ^ 1074) (pow_zero (2 : ℚ))
  rw [midpoint_eq_sub, next, toRat_normal, unit, div_div, ← pow_succ]

theorem midpoint_below_infinite : midpoint (infinite - 1) = 2 ^ 1024 - 2 ^ 970 := by
  have next : infinite - 1 + 1 = infinite := by decide
  have scaled : scale (infinite - 1) = 2045 := by decide
  have last : spacing (infinite - 1) = 2 ^ 971 := by
    have power : (2 : ℚ) ^ 2045 = 2 ^ 971 * 2 ^ 1074 := pow_add 2 971 1074
    rw [spacing, scaled, power]
    exact mul_div_cancel_right₀ _ (by positivity)
  have half : (2 : ℚ) ^ 971 / 2 = 2 ^ 970 := by
    rw [pow_succ]
    exact mul_div_cancel_right₀ _ two_ne_zero
  rw [midpoint_eq_sub, next, toRat_infinite, last, half]

/-- Half of the smallest number still rounds to zero. -/
theorem IsNearest.eq_zero_iff (h : IsNearest q n) : n = 0 ↔ q ≤ 1 / 2 ^ 1075 := by
  rw [← Nat.le_zero, h.le_iff (by decide), midpoint_zero, and_iff_left rfl]
  exact le_iff_lt_or_eq.symm

theorem IsNearest.lt_normal_iff (h : IsNearest q n) :
    n < 2 ^ 52 ↔ q < 1 / 2 ^ 1022 - 1 / 2 ^ 1075 := by
  have odd : ¬ (2 ^ 52 - 1) % 2 = 0 := by decide
  rw [← Nat.le_sub_one_iff_lt (by decide), h.le_iff (by decide), midpoint_below_normal]
  exact or_iff_left fun tie => odd tie.2

theorem isFinite_iff (v : Binary64) : v.isFinite = true ↔ v.magnitude < infinite :=
  decide_eq_true_iff

/-- The largest number goes on for half a step above itself. -/
theorem IsNearest.lt_infinite_iff (h : IsNearest q n) : n < infinite ↔ q < 2 ^ 1024 - 2 ^ 970 := by
  have odd : ¬ (infinite - 1) % 2 = 0 := by decide
  rw [← Nat.le_sub_one_iff_lt (by decide), h.le_iff (by decide), midpoint_below_infinite]
  exact or_iff_left fun tie => odd tie.2

end Binary64

end Formulary
