import Formulary.Proofs.Number.Layout
import Formulary.Proofs.Number.Value
import Mathlib.Data.List.Induction

/-!
# Significant digits

The significant digits of a literal are counted on its text, and they are those of its value. Digits in a
row are the digits of the number they write behind some zeros (`exists_zeros_append`), and the digits of a
number other than zero end with the zeros that reducing it takes off (`Decimal.exists_digits_append`). What
is left between the zeros are the digits of the one decimal of that value whose coefficient does not end
in a zero (`Decimal.eq_of_toRat_eq`, `Denotes.significantDigits_eq`). A zero has none.

So the count depends on the value alone, and it tells in how many digits the value can be written
(`Denotes.significantDigits_le_iff`).
-/

set_option autoImplicit false

namespace Formulary

/-! ## Digits in a row -/

theorem toNat_sub_lt {c : Char} (h : c.isDigit = true) : c.toNat - '0'.toNat < 10 := by
  have bounds := Char.isDigit_iff_toNat.mp h
  simp only [Char.reduceToNat] at bounds ⊢
  omega

theorem digitChar_sub {c : Char} (h : c.isDigit = true) : Nat.digitChar (c.toNat - '0'.toNat) = c := by
  have bounds := Char.isDigit_iff_toNat.mp h
  apply Char.toNat_inj.mp
  rw [Nat.toNat_digitChar_of_lt_ten (toNat_sub_lt h)]
  simp only [Char.reduceToNat] at bounds ⊢
  omega

theorem natOfDigits_concat (s : List Char) (c : Char) :
    natOfDigits (s ++ [c]) = 10 * natOfDigits s + (c.toNat - '0'.toNat) := by
  rw [natOfDigits, Nat.ofDigitChars_append, Nat.ofDigitChars_cons, Nat.ofDigitChars_nil, natOfDigits]

theorem toDigits_concat {n : Nat} {c : Char} (h : 0 < n) (digit : c.isDigit = true) :
    Nat.toDigits 10 (10 * n + (c.toNat - '0'.toNat)) = Nat.toDigits 10 n ++ [c] := by
  have small := toNat_sub_lt digit
  rw [← Nat.toDigits_append_toDigits (by decide) h small, Nat.toDigits_of_lt_base small,
    digitChar_sub digit]

theorem eq_zeros_of_natOfDigits {s : List Char} (digits : ∀ c ∈ s, c.isDigit = true)
    (zero : natOfDigits s = 0) : ∃ a, s = List.replicate a '0' := by
  induction s using List.reverseRecOn with
  | nil => exact ⟨0, rfl⟩
  | append_singleton s c ih =>
    rw [natOfDigits_concat] at zero
    obtain ⟨a, rfl⟩ := ih (fun d hd => digits d (List.mem_append_left _ hd)) (by omega)
    have last := digitChar_sub (digits c (by simp))
    rw [(by omega : c.toNat - '0'.toNat = 0)] at last
    refine ⟨a + 1, ?_⟩
    rw [← last, List.replicate_succ']
    rfl

/-- Zeros, and behind them the digits of the number that is written. -/
theorem exists_zeros_append {s : List Char} (digits : ∀ c ∈ s, c.isDigit = true)
    (nonzero : natOfDigits s ≠ 0) :
    ∃ a, s = List.replicate a '0' ++ Nat.toDigits 10 (natOfDigits s) := by
  induction s using List.reverseRecOn with
  | nil => exact absurd rfl nonzero
  | append_singleton s c ih =>
    have before : ∀ d ∈ s, d.isDigit = true := fun d hd => digits d (List.mem_append_left _ hd)
    have last : c.isDigit = true := digits c (by simp)
    rw [natOfDigits_concat] at nonzero ⊢
    rcases Nat.eq_zero_or_pos (natOfDigits s) with zero | pos
    · -- only zeros stand before the digit
      obtain ⟨a, rfl⟩ := eq_zeros_of_natOfDigits before zero
      refine ⟨a, ?_⟩
      rw [zero, Nat.mul_zero, Nat.zero_add, Nat.toDigits_of_lt_base (toNat_sub_lt last),
        digitChar_sub last]
    · obtain ⟨a, front⟩ := ih before pos.ne'
      refine ⟨a, ?_⟩
      rw [toDigits_concat pos last, ← List.append_assoc, ← front]

namespace Decimal

/-! ## The reduced decimal -/

theorem exists_digits_append (d : Decimal) (nonzero : d.coefficient ≠ 0) :
    ∃ b, d.digits = d.reduce.digits ++ List.replicate b '0' := by
  fun_induction reduce d with
  | case1 d h ih =>
    have tens : 10 ≤ d.coefficient := by omega
    obtain ⟨b, front⟩ := ih (by simp only; omega)
    refine ⟨b + 1, ?_⟩
    rw [List.replicate_succ', ← List.append_assoc, ← front]
    simp only [digits]
    rw [Nat.toDigits_of_base_le (by decide) tens, h.2]
    rfl
  | case2 d h => exact ⟨0, by simp⟩

/-- A value has one decimal whose coefficient does not end in a zero. -/
theorem eq_of_toRat_eq {d e : Decimal} (hd : d.coefficient % 10 ≠ 0) (he : e.coefficient % 10 ≠ 0)
    (same : d.toRat = e.toRat) : d = e := by
  wlog order : d.exponent ≤ e.exponent generalizing d e with symm
  · exact (symm he hd same.symm (le_of_not_ge order)).symm
  have power : (10 : ℚ) ^ d.exponent ≠ 0 := by positivity
  rw [toRat_eq_mul order, toRat] at same
  have whole := mul_right_cancel₀ power same
  have coefficients : d.coefficient = e.coefficient * 10 ^ (e.exponent - d.exponent).toNat := by
    exact_mod_cast whole
  cases shift : (e.exponent - d.exponent).toNat with
  | zero =>
    rw [shift, pow_zero, Nat.mul_one] at coefficients
    have exponents : d.exponent = e.exponent := by omega
    cases d
    cases e
    simp_all
  | succ k =>
    -- the coefficient of the first would end in a zero
    rw [shift, pow_succ, ← Nat.mul_assoc] at coefficients
    exact absurd (coefficients ▸ Nat.mul_mod_left _ 10) hd

theorem coefficient_reduce_mod {d : Decimal} (h : d.toRat ≠ 0) : d.reduce.coefficient % 10 ≠ 0 := by
  refine d.coefficient_reduce.resolve_left fun zero => h ?_
  rw [← d.toRat_reduce]
  exact (toRat_eq_zero_iff _).mpr zero

theorem reduce_eq {d e : Decimal} (h : e.coefficient % 10 ≠ 0) (same : d.toRat = e.toRat) :
    d.reduce = e := by
  have nonzero : e.toRat ≠ 0 := fun zero => h (by rw [(toRat_eq_zero_iff e).mp zero])
  exact eq_of_toRat_eq (coefficient_reduce_mod (same ▸ nonzero)) h (d.toRat_reduce.trans same)

end Decimal

namespace Literal

/-! ## Counting on the text -/

theorem WellFormed.isDigit {l : Literal} (h : l.WellFormed) :
    ∀ c ∈ l.whole ++ l.fraction.getD [], c.isDigit = true := by
  intro c hc
  rcases List.mem_append.mp hc with hc | hc
  · exact h.whole c hc
  · cases hf : l.fraction with
    | none => simp [hf] at hc
    | some f => exact h.fraction f hf c (by simpa [hf] using hc)

theorem significantDigits_of_zero {l : Literal} (h : l.WellFormed) (zero : l.value.toRat = 0) :
    significantDigits l.chars = 0 := by
  obtain ⟨a, zeros⟩ := eq_zeros_of_natOfDigits h.isDigit ((Decimal.toRat_eq_zero_iff _).mp zero)
  have empty := Text.length_trim_le (beq_of_mem_zeros (k := a)) (s := []) (b := []) (by simp)
  rw [significantDigits, mantissaDigits_chars h, zeros]
  simpa using empty

theorem significantDigits_of_nonzero {l : Literal} (h : l.WellFormed) (nonzero : l.value.toRat ≠ 0) :
    significantDigits l.chars = l.value.significant := by
  have number : l.value.coefficient ≠ 0 := fun zero =>
    nonzero ((Decimal.toRat_eq_zero_iff _).mpr zero)
  obtain ⟨a, front⟩ := exists_zeros_append h.isDigit number
  obtain ⟨b, back⟩ := l.value.exists_digits_append number
  have own := Decimal.trimmed_digits (Decimal.coefficient_reduce_mod nonzero)
  have split : l.whole ++ l.fraction.getD [] =
      List.replicate a '0' ++ (l.value.reduce.digits ++ List.replicate b '0') :=
    front.trans (congrArg _ back)
  rw [significantDigits, mantissaDigits_chars h, split, own.trim_zeros, Decimal.significant]

variable {text : String} {q : ℚ}

theorem Denotes.significantDigits_zero (h : Denotes text 0) : significantDigits text.toList = 0 := by
  obtain ⟨l, wf, rfl, value⟩ := h.exists_chars
  rw [String.toList_ofList]
  exact significantDigits_of_zero wf value

/-- The digits that are counted are those of the reduced decimal of the value. -/
theorem Denotes.significantDigits_eq {d : Decimal} (h : Denotes text d.toRat)
    (ends : d.coefficient % 10 ≠ 0) : significantDigits text.toList = d.digits.length := by
  obtain ⟨l, wf, rfl, value⟩ := h.exists_chars
  have nonzero : l.value.toRat ≠ 0 := by
    rw [value]
    exact fun zero => ends (by rw [(Decimal.toRat_eq_zero_iff d).mp zero])
  rw [String.toList_ofList, significantDigits_of_nonzero wf nonzero, Decimal.significant,
    Decimal.reduce_eq ends value]

/-- The value of a literal that is not zero has a reduced decimal. -/
theorem Denotes.exists_reduced (h : Denotes text q) (nonzero : q ≠ 0) :
    ∃ d : Decimal, d.coefficient % 10 ≠ 0 ∧ d.toRat = q := by
  obtain ⟨l, -, -, value⟩ := h.exists_chars
  exact ⟨l.value.reduce, Decimal.coefficient_reduce_mod (value ▸ nonzero),
    l.value.toRat_reduce.trans value⟩

/-- The count tells in how many digits the value can be written. -/
theorem Denotes.significantDigits_le_iff (h : Denotes text q) {p : Nat} (hp : 0 < p) :
    significantDigits text.toList ≤ p ↔ ∃ d : Decimal, d.coefficient < 10 ^ p ∧ d.toRat = q := by
  rcases eq_or_ne q 0 with rfl | nonzero
  · rw [h.significantDigits_zero]
    refine iff_of_true (Nat.zero_le p) ⟨⟨0, 0⟩, Nat.pow_pos (by decide), ?_⟩
    exact (Decimal.toRat_eq_zero_iff _).mpr rfl
  · obtain ⟨d, ends, rfl⟩ := h.exists_reduced nonzero
    rw [h.significantDigits_eq ends]
    constructor
    · intro few
      exact ⟨d, (d.length_digits_le_iff hp).mp few, rfl⟩
    · rintro ⟨e, few, same⟩
      rw [← Decimal.reduce_eq ends same]
      exact Decimal.significant_le hp few

end Literal

end Formulary
