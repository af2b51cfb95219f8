import Formulary.Number.Rendering
import Formulary.Proofs.Number.Literal
import Formulary.Proofs.Number.Shortest

/-!
# The text of a number is a literal

Both layouts of a decimal are literals, and the literals are given here as such
(`Decimal.positionalLiteral`, `Decimal.scientificLiteral`): the same characters in parts. What the parts
are good for is `Decimal.Writes`: the literal is well formed, it has the value of the decimal, its digits
are those of the decimal with zeros around them, and its exponent is marked by a small letter.

A finite magnitude is therefore written as a literal whose nearest pattern is the magnitude again, with
at most seventeen digits between its zeros (`exists_spelling`).
-/

set_option autoImplicit false

namespace Formulary

/-! ## Digits -/

theorem natOfDigits_append_zeros (s : List Char) (k : Nat) :
    natOfDigits (s ++ List.replicate k '0') = natOfDigits s * 10 ^ k := by
  rw [natOfDigits, Nat.ofDigitChars_append, Nat.ofDigitChars_replicate_zero, Nat.mul_comm,
    natOfDigits]

theorem natOfDigits_zeros_append (k : Nat) (s : List Char) :
    natOfDigits (List.replicate k '0' ++ s) = natOfDigits s := by
  rw [natOfDigits, Nat.ofDigitChars_append, Nat.ofDigitChars_replicate_zero, Nat.mul_zero,
    natOfDigits]

theorem natOfDigits_toDigits (n : Nat) : natOfDigits (Nat.toDigits 10 n) = n :=
  Nat.ofDigitChars_ten_toDigits

theorem isDigit_of_mem_toDigits {n : Nat} {c : Char} (h : c ∈ Nat.toDigits 10 n) :
    c.isDigit = true :=
  Nat.isDigit_of_mem_toDigits (by decide) (Nat.le_refl 10) h

theorem isDigit_of_mem_zeros {k : Nat} {c : Char} (h : c ∈ List.replicate k '0') :
    c.isDigit = true := by
  rw [List.eq_of_mem_replicate h]
  decide

namespace Decimal

/-- The literal is a spelling of the decimal. -/
structure Writes (d : Decimal) (l : Literal) : Prop where
  wellFormed : l.WellFormed
  value : l.value.toRat = d.toRat
  digits : ∃ a b, l.whole ++ l.fraction.getD [] =
    List.replicate a '0' ++ (d.digits ++ List.replicate b '0')
  mark : ∀ e ∈ l.scale, e.mark = 'e'

theorem isDigit_digits (d : Decimal) : ∀ c ∈ d.digits, c.isDigit = true :=
  fun _ h => isDigit_of_mem_toDigits h

theorem digits_ne_nil (d : Decimal) : d.digits ≠ [] :=
  Nat.toDigits_ne_nil

/-! ## Without an exponent -/

/-- The positional text of a decimal, in parts. -/
def positionalLiteral (d : Decimal) : Literal :=
  if 0 ≤ d.exponent then
    ⟨d.digits ++ List.replicate d.exponent.toNat '0', none, none⟩
  else if (-d.exponent).toNat < d.digits.length then
    ⟨d.digits.take (d.digits.length - (-d.exponent).toNat),
      some (d.digits.drop (d.digits.length - (-d.exponent).toNat)), none⟩
  else
    ⟨['0'], some (List.replicate ((-d.exponent).toNat - d.digits.length) '0' ++ d.digits), none⟩

theorem chars_positionalLiteral (d : Decimal) : d.positionalLiteral.chars = d.positional := by
  unfold positionalLiteral positional
  split
  · simp [Literal.chars]
  split
  · simp [Literal.chars]
  · simp [Literal.chars]

theorem writes_whole {d : Decimal} (h : 0 ≤ d.exponent) :
    d.Writes ⟨d.digits ++ List.replicate d.exponent.toNat '0', none, none⟩ := by
  refine ⟨⟨?_, by simp, by simp [d.digits_ne_nil], by simp⟩, ?_, ⟨0, _, by simp; rfl⟩, by simp⟩
  · intro c hc
    rcases List.mem_append.mp hc with hc | hc
    · exact d.isDigit_digits c hc
    · exact isDigit_of_mem_zeros hc
  · -- the zeros at the end are the power of ten
    have value : natOfDigits (d.digits ++ List.replicate d.exponent.toNat '0') =
        d.coefficient * 10 ^ d.exponent.toNat := by
      rw [natOfDigits_append_zeros, digits, natOfDigits_toDigits]
    have power : (10 : ℚ) ^ d.exponent = 10 ^ d.exponent.toNat := by
      rw [← zpow_natCast, Int.toNat_of_nonneg h]
    simp [Literal.value, toRat, value, power]

theorem writes_point_inside {d : Decimal} (h : ¬ 0 ≤ d.exponent)
    (hk : (-d.exponent).toNat < d.digits.length) :
    d.Writes ⟨d.digits.take (d.digits.length - (-d.exponent).toNat),
      some (d.digits.drop (d.digits.length - (-d.exponent).toNat)), none⟩ := by
  have whole : d.digits.take (d.digits.length - (-d.exponent).toNat) ++
      d.digits.drop (d.digits.length - (-d.exponent).toNat) = d.digits :=
    List.take_append_drop _ _
  refine ⟨⟨?_, ?_, ?_, by simp⟩, ?_, ⟨0, 0, by simp⟩, by simp⟩
  · intro c hc
    exact d.isDigit_digits c (List.mem_of_mem_take hc)
  · intro f hf c hc
    obtain rfl := Option.mem_some.mp hf
    exact d.isDigit_digits c (List.mem_of_mem_drop hc)
  · simpa using d.digits_ne_nil
  · -- the literal reads as the decimal itself, with as many places as the exponent says
    have value : Literal.value ⟨d.digits.take (d.digits.length - (-d.exponent).toNat),
        some (d.digits.drop (d.digits.length - (-d.exponent).toNat)), none⟩ = d := by
      rw [Literal.value]
      simp only [Option.getD_some, Option.elim_none, whole, List.length_drop]
      rw [digits, natOfDigits_toDigits, ← digits]
      congr 1
      omega
    rw [value]

theorem writes_point_before {d : Decimal} (h : ¬ 0 ≤ d.exponent)
    (hk : ¬ (-d.exponent).toNat < d.digits.length) :
    d.Writes ⟨['0'],
      some (List.replicate ((-d.exponent).toNat - d.digits.length) '0' ++ d.digits), none⟩ := by
  -- the zero before the point and the ones behind it make one run
  have run : ['0'] ++ (List.replicate ((-d.exponent).toNat - d.digits.length) '0' ++ d.digits) =
      List.replicate (1 + ((-d.exponent).toNat - d.digits.length)) '0' ++ d.digits := by
    rw [← List.replicate_one, ← List.append_assoc, List.replicate_append_replicate]
  refine ⟨⟨by simp, ?_, by simp, by simp⟩, ?_,
    ⟨1 + ((-d.exponent).toNat - d.digits.length), 0, ?_⟩, by simp⟩
  · intro f hf c hc
    obtain rfl := Option.mem_some.mp hf
    rcases List.mem_append.mp hc with hc | hc
    · exact isDigit_of_mem_zeros hc
    · exact d.isDigit_digits c hc
  · have value : Literal.value ⟨['0'], some (List.replicate ((-d.exponent).toNat -
        d.digits.length) '0' ++ d.digits), none⟩ = d := by
      rw [Literal.value]
      simp only [Option.getD_some, Option.elim_none, List.length_append, List.length_replicate]
      rw [run, natOfDigits_zeros_append, digits, natOfDigits_toDigits, ← digits]
      congr 1
      omega
    rw [value]
  · rw [Option.getD_some, run, List.replicate_zero, List.append_nil]

theorem writes_positionalLiteral (d : Decimal) : d.Writes d.positionalLiteral := by
  unfold positionalLiteral
  split
  · next h => exact writes_whole h
  split
  · next h hk => exact writes_point_inside h hk
  · next h hk => exact writes_point_before h hk

/-! ## With an exponent -/

/-- The scientific text of a decimal, in parts. -/
def scientificLiteral (width : Nat) (d : Decimal) : Literal where
  whole := d.digits.take 1
  fraction := if d.digits.drop 1 = [] then none else some (d.digits.drop 1)
  scale := some ⟨'e', some (if d.order < 0 then '-' else '+'), padded width d.order.natAbs⟩

theorem mantissa_eq (s : List Char) :
    mantissa s = s.take 1 ++ (if s.drop 1 = [] then none else some (s.drop 1)).elim [] ('.' :: ·) := by
  cases s with
  | nil => rfl
  | cons c s =>
    cases s with
    | nil => rfl
    | cons c' s => rfl

theorem chars_scientificLiteral (width : Nat) (d : Decimal) :
    (d.scientificLiteral width).chars = d.scientific width := by
  simp [scientificLiteral, scientific, Literal.chars, Literal.Scale.chars, mantissa_eq]

theorem natOfDigits_padded (width n : Nat) : natOfDigits (padded width n) = n := by
  rw [padded, natOfDigits_zeros_append, natOfDigits_toDigits]

theorem value_scientificLiteral (width : Nat) (d : Decimal) :
    (d.scientificLiteral width).value = d := by
  have fraction : (if d.digits.drop 1 = [] then none else some (d.digits.drop 1)).getD [] =
      d.digits.drop 1 := by
    split
    · next h => rw [h, Option.getD_none]
    · rfl
  have exponent : Literal.Scale.value ⟨'e', some (if d.order < 0 then '-' else '+'),
      padded width d.order.natAbs⟩ = d.order := by
    rw [Literal.Scale.value, natOfDigits_padded]
    by_cases h : d.order < 0
    · rw [if_pos h, if_pos rfl]
      omega
    · rw [if_neg h, if_neg (by simp)]
      omega
  have pos : 0 < d.digits.length := List.length_pos_iff.mpr d.digits_ne_nil
  rw [Literal.value, scientificLiteral, fraction, List.take_append_drop, Option.elim_some, exponent,
    digits, natOfDigits_toDigits, ← digits, List.length_drop, order]
  congr 1
  omega

theorem writes_scientificLiteral (width : Nat) (d : Decimal) :
    d.Writes (d.scientificLiteral width) := by
  have own := d.isDigit_digits
  have fraction : (d.scientificLiteral width).fraction.getD [] = d.digits.drop 1 := by
    rw [scientificLiteral]
    split
    · next h => rw [h, Option.getD_none]
    · rfl
  have all : (d.scientificLiteral width).whole ++ (d.scientificLiteral width).fraction.getD [] =
      d.digits := by
    rw [fraction]
    exact List.take_append_drop 1 d.digits
  refine ⟨⟨?_, ?_, ?_, ?_⟩, by rw [value_scientificLiteral], ⟨0, 0, by simp [all]⟩, ?_⟩
  · intro c hc
    exact own c (List.mem_of_mem_take hc)
  · intro f hf c hc
    rw [Option.mem_def] at hf
    rw [hf, Option.getD_some] at fraction
    rw [fraction] at hc
    exact own c (List.mem_of_mem_drop hc)
  · rw [all]
    exact d.digits_ne_nil
  · intro e he
    obtain rfl := Option.mem_some.mp he
    refine ⟨rfl, ?_, ?_, ?_⟩
    · intro c hc
      obtain rfl := Option.mem_some.mp hc
      split
      · decide
      · decide
    · intro c hc
      rcases List.mem_append.mp hc with hc | hc
      · exact isDigit_of_mem_zeros hc
      · exact isDigit_of_mem_toDigits hc
    · exact List.append_ne_nil_of_right_ne_nil _ Nat.toDigits_ne_nil
  · intro e he
    obtain rfl := Option.mem_some.mp he
    rfl

end Decimal

namespace Binary64

/-! ## Magnitudes -/

/-- The decimal that a magnitude is written as. -/
def writtenAs (n : Nat) : Decimal :=
  if n = 0 then ⟨0, 0⟩ else shortest n

theorem nearest_writtenAs {n : Nat} (h : n < infinite) : (writtenAs n).nearest = n := by
  unfold writtenAs
  split
  · next h0 =>
    rw [h0]
    decide
  · next h0 => exact nearest_shortest (Nat.pos_of_ne_zero h0) h

theorem length_digits_writtenAs {n : Nat} (h : n < infinite) :
    (writtenAs n).digits.length ≤ maxDigits := by
  have small : (writtenAs n).coefficient < 10 ^ maxDigits := by
    unfold writtenAs
    split
    · decide
    · next h0 => exact coefficient_shortest_lt (Nat.pos_of_ne_zero h0) h
  exact ((writtenAs n).length_digits_le_iff (by decide)).mpr small

/-- The literal that a magnitude is written as. -/
def literal (layout : Layout) (n : Nat) : Literal :=
  if isPositional layout n then (writtenAs n).positionalLiteral
  else (writtenAs n).scientificLiteral layout.exponentWidth

theorem chars_literal (layout : Layout) (n : Nat) :
    (literal layout n).chars = magnitudeText layout n := by
  unfold literal magnitudeText writtenAs
  by_cases h0 : n = 0
  · -- zero is written without an exponent in every layout
    have positional : isPositional layout n = true := by
      rw [h0]
      rfl
    rw [if_pos positional, if_pos h0, if_pos h0, Decimal.chars_positionalLiteral]
  · rw [if_neg h0, if_neg h0]
    split
    · exact Decimal.chars_positionalLiteral _
    · exact Decimal.chars_scientificLiteral _ _

theorem writes_literal (layout : Layout) (n : Nat) : (writtenAs n).Writes (literal layout n) := by
  unfold literal
  split
  · exact Decimal.writes_positionalLiteral _
  · exact Decimal.writes_scientificLiteral _ _

/-- The literal spells a magnitude: reading it gives the magnitude back, and it has no more digits than
that needs. -/
structure Spells (n : Nat) (l : Literal) : Prop where
  wellFormed : l.WellFormed
  nearest : l.value.nearest = n
  mark : ∀ e ∈ l.scale, e.mark = 'e'
  digits : ∃ a b ds, l.whole ++ l.fraction.getD [] =
    List.replicate a '0' ++ (ds ++ List.replicate b '0') ∧ ds.length ≤ maxDigits

theorem exists_spelling (layout : Layout) {n : Nat} (h : n < infinite) :
    ∃ l : Literal, l.chars = magnitudeText layout n ∧ Spells n l := by
  obtain ⟨wf, value, ⟨a, b, digits⟩, mark⟩ := writes_literal layout n
  refine ⟨literal layout n, chars_literal layout n, wf, ?_, mark, a, b, _, digits,
    length_digits_writtenAs h⟩
  rw [Decimal.nearest_eq_of_toRat_eq value, nearest_writtenAs h]

end Binary64

end Formulary
