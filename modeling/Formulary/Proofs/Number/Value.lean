import Formulary.Proofs.Number.Reading
import Formulary.Proofs.Number.Rounding

/-!
# The exact value of a text

A text with the shape of a number denotes one rational number, before any rounding (`Literal.Denotes`). That
is said of the characters: digits before and after a point count by their places, and what stands in front of
the exponent is multiplied by a power of ten.

A literal puts the same together in another way, as one natural number and one exponent, and the two agree
(`Literal.denotes_iff`). The number that is read from such a text is the one nearest to what the text denotes
(`Denotes.exists_read`).
-/

set_option autoImplicit false

namespace Formulary

namespace Literal

/-! ## What characters denote -/

/-- The number that digits write, each by its place. -/
def placeValue : List Char → Nat
  | [] => 0
  | c :: s => (c.toNat - '0'.toNat) * 10 ^ s.length + placeValue s

/-- The characters in front of an exponent, and their value: digits, or digits around a point. -/
inductive Mantissa : List Char → ℚ → Prop
  | whole {s : List Char} (digits : ∀ c ∈ s, c.isDigit = true) (nonempty : s ≠ []) :
    Mantissa s (placeValue s)
  | point {s t : List Char} (digits : ∀ c ∈ s ++ t, c.isDigit = true) (nonempty : s ++ t ≠ []) :
    Mantissa (s ++ '.' :: t) (placeValue s + placeValue t / 10 ^ t.length)

/-- The characters of an exponent, which may be missing, and its value. -/
inductive Exponent : List Char → Int → Prop
  | missing : Exponent [] 0
  | unsigned {m : Char} {s : List Char} (mark : m = 'e' ∨ m = 'E')
    (digits : ∀ c ∈ s, c.isDigit = true) (nonempty : s ≠ []) : Exponent (m :: s) (placeValue s)
  | plus {m : Char} {s : List Char} (mark : m = 'e' ∨ m = 'E')
    (digits : ∀ c ∈ s, c.isDigit = true) (nonempty : s ≠ []) : Exponent (m :: '+' :: s) (placeValue s)
  | minus {m : Char} {s : List Char} (mark : m = 'e' ∨ m = 'E')
    (digits : ∀ c ∈ s, c.isDigit = true) (nonempty : s ≠ []) :
    Exponent (m :: '-' :: s) (-placeValue s)

/-- The text has the shape of a number, and `q` is its exact value. -/
def Denotes (text : String) (q : ℚ) : Prop :=
  ∃ s t r k, text.toList = s ++ t ∧ Mantissa s r ∧ Exponent t k ∧ q = r * 10 ^ k

/-! ## What literals denote -/

theorem placeValue_eq (s : List Char) : placeValue s = natOfDigits s := by
  induction s with
  | nil => rfl
  | cons c s ih =>
    rw [placeValue, ih, natOfDigits, natOfDigits, Nat.ofDigitChars_cons, Nat.mul_zero, Nat.zero_add]
    conv_rhs => rw [Nat.ofDigitChars_eq_ofDigitChars_zero, Nat.mul_comm]

theorem placeValue_append (s t : List Char) :
    placeValue (s ++ t) = placeValue s * 10 ^ t.length + placeValue t := by
  induction s with
  | nil => simp [placeValue]
  | cons c s ih =>
    rw [List.cons_append, placeValue, ih, placeValue, List.length_append, Nat.pow_add, Nat.add_mul,
      Nat.mul_assoc, Nat.add_assoc]

/-- The digits around a point are those of one number, divided by the power of ten behind the point. -/
theorem placeValue_append_mul (s t : List Char) :
    (natOfDigits (s ++ t) : ℚ) * 10 ^ (-(t.length : Int)) =
      placeValue s + placeValue t / 10 ^ t.length := by
  have power : (10 : ℚ) ^ t.length ≠ 0 := by positivity
  rw [← placeValue_eq, placeValue_append, zpow_neg, zpow_natCast]
  push_cast
  field_simp

theorem Exponent.exists_scale {t : List Char} {k : Int} (h : Exponent t k) :
    ∃ scale : Option Scale, (∀ e ∈ scale, e.WellFormed) ∧ scale.elim [] Scale.chars = t ∧
      scale.elim 0 Scale.value = k := by
  have written : ∀ {m : Char} {sign : Option Char} {s : List Char}, m = 'e' ∨ m = 'E' →
      (∀ c ∈ sign, isSign c = true) → (∀ c ∈ s, c.isDigit = true) → s ≠ [] →
      ∀ e ∈ some (⟨m, sign, s⟩ : Scale), e.WellFormed := by
    intro m sign s mark signs digits nonempty e he
    obtain rfl := Option.mem_some_iff.mp he
    refine ⟨?_, signs, digits, nonempty⟩
    rcases mark with rfl | rfl
    all_goals rfl
  cases h with
  | missing => exact ⟨none, nofun, rfl, rfl⟩
  | @unsigned m s mark digits nonempty =>
    refine ⟨some ⟨m, none, s⟩, written mark nofun digits nonempty, rfl, ?_⟩
    simp [Scale.value, placeValue_eq]
  | @plus m s mark digits nonempty =>
    refine ⟨some ⟨m, some '+', s⟩, written mark ?_ digits nonempty, rfl, ?_⟩
    · simp [isSign]
    · simp [Scale.value, placeValue_eq]
  | @minus m s mark digits nonempty =>
    refine ⟨some ⟨m, some '-', s⟩, written mark ?_ digits nonempty, rfl, ?_⟩
    · simp [isSign]
    · simp [Scale.value, placeValue_eq]

theorem exponent_of_scale {scale : Option Scale} (h : ∀ e ∈ scale, e.WellFormed) :
    Exponent (scale.elim [] Scale.chars) (scale.elim 0 Scale.value) := by
  cases scale with
  | none => exact .missing
  | some e =>
    obtain ⟨m, sign, s⟩ := e
    obtain ⟨mark, signs, digits, nonempty⟩ := h _ rfl
    have letter := cases_of_isMark mark
    cases sign with
    | none =>
      have value : Scale.value ⟨m, none, s⟩ = placeValue s := by simp [Scale.value, placeValue_eq]
      rw [Option.elim_some, Option.elim_some, value]
      exact .unsigned letter digits nonempty
    | some c =>
      rcases cases_of_isSign (signs c rfl) with rfl | rfl
      · have value : Scale.value ⟨m, some '+', s⟩ = placeValue s := by
          simp [Scale.value, placeValue_eq]
        rw [Option.elim_some, Option.elim_some, value]
        exact .plus letter digits nonempty
      · have value : Scale.value ⟨m, some '-', s⟩ = -placeValue s := by
          simp [Scale.value, placeValue_eq]
        rw [Option.elim_some, Option.elim_some, value]
        exact .minus letter digits nonempty

theorem Mantissa.exists_parts {s : List Char} {r : ℚ} (h : Mantissa s r) :
    ∃ (whole : List Char) (fraction : Option (List Char)), (∀ c ∈ whole, c.isDigit = true) ∧
      (∀ f ∈ fraction, ∀ c ∈ f, c.isDigit = true) ∧ whole ++ fraction.getD [] ≠ [] ∧
      whole ++ fraction.elim [] ('.' :: ·) = s ∧
      r = natOfDigits (whole ++ fraction.getD []) * 10 ^ (-((fraction.getD []).length : Int)) := by
  cases h with
  | whole digits nonempty =>
    refine ⟨s, none, digits, nofun, ?_, s.append_nil, ?_⟩
    · rwa [Option.getD_none, s.append_nil]
    · simp [placeValue_eq]
  | @point w f digits nonempty =>
    refine ⟨w, some f, ?_, ?_, nonempty, rfl, (placeValue_append_mul w f).symm⟩
    · exact fun c hc => digits c (List.mem_append_left f hc)
    · intro t ht c hc
      obtain rfl := Option.mem_some_iff.mp ht
      exact digits c (List.mem_append_right w hc)

theorem mantissa_of_parts {whole : List Char} {fraction : Option (List Char)}
    (digits : ∀ c ∈ whole, c.isDigit = true) (digits' : ∀ f ∈ fraction, ∀ c ∈ f, c.isDigit = true)
    (nonempty : whole ++ fraction.getD [] ≠ []) :
    Mantissa (whole ++ fraction.elim [] ('.' :: ·))
      (natOfDigits (whole ++ fraction.getD []) * 10 ^ (-((fraction.getD []).length : Int))) := by
  cases fraction with
  | none =>
    rw [Option.getD_none, whole.append_nil] at nonempty
    simpa [placeValue_eq] using Mantissa.whole digits nonempty
  | some f =>
    have all : ∀ c ∈ whole ++ f, c.isDigit = true := by
      intro c hc
      exact (List.mem_append.mp hc).elim (digits c) (digits' f rfl c)
    have point := Mantissa.point all nonempty
    rwa [← placeValue_append_mul] at point

theorem toRat_value (l : Literal) :
    l.value.toRat = natOfDigits (l.whole ++ l.fraction.getD []) *
      10 ^ (-((l.fraction.getD []).length : Int)) * 10 ^ l.scale.elim 0 Scale.value := by
  rw [Decimal.toRat, mul_assoc, ← zpow_add₀ (by norm_num)]
  congr 2
  simp only [value]
  omega

variable {text : String} {q : ℚ}

/-- What a text denotes is the value of the literal that it writes. -/
theorem denotes_iff :
    Denotes text q ↔ ∃ l : Literal, ofChars? text.toList = some l ∧ l.value.toRat = q := by
  constructor
  · rintro ⟨s, t, r, k, chars, mantissa, exponent, rfl⟩
    obtain ⟨whole, fraction, digits, digits', nonempty, rfl, rfl⟩ := mantissa.exists_parts
    obtain ⟨scale, scales, rfl, rfl⟩ := exponent.exists_scale
    have written : (⟨whole, fraction, scale⟩ : Literal).WellFormed :=
      ⟨digits, digits', nonempty, scales⟩
    refine ⟨_, ofChars?_eq_some_iff.mpr ⟨written, ?_⟩, toRat_value _⟩
    rw [chars, Literal.chars, List.append_assoc]
  · rintro ⟨l, hl, rfl⟩
    obtain ⟨written, chars⟩ := ofChars?_eq_some_iff.mp hl
    refine ⟨_, _, _, _, ?_, mantissa_of_parts written.whole written.fraction written.ne_nil,
      exponent_of_scale written.scale, toRat_value l⟩
    rw [chars, Literal.chars, List.append_assoc]

theorem denotes_chars {l : Literal} (h : l.WellFormed) :
    Denotes (String.ofList l.chars) l.value.toRat := by
  refine denotes_iff.mpr ⟨l, ?_, rfl⟩
  rw [String.toList_ofList]
  exact ofChars?_eq_some_iff.mpr ⟨h, rfl⟩

theorem Denotes.exists_chars (h : Denotes text q) :
    ∃ l : Literal, l.WellFormed ∧ text = String.ofList l.chars ∧ l.value.toRat = q := by
  obtain ⟨l, hl, value⟩ := denotes_iff.mp h
  obtain ⟨wf, chars⟩ := ofChars?_eq_some_iff.mp hl
  exact ⟨l, wf, by rw [← chars, String.ofList_toList], value⟩

/-- A value that was computed, as a decimal, is what the text denotes. -/
theorem denotes_of_value {d : Decimal} (h : (ofChars? text.toList).map value = some d) :
    Denotes text d.toRat := by
  obtain ⟨l, hl, rfl⟩ := Option.map_eq_some_iff.mp h
  exact denotes_iff.mpr ⟨l, hl, rfl⟩

/-- The texts that denote something are those of number tokens. -/
theorem exists_denotes_iff : (∃ q, Denotes text q) ↔ Token.hasShape ⟨.number, text⟩ = true := by
  simp only [denotes_iff]
  constructor
  · rintro ⟨q, l, hl, -⟩
    exact Option.isSome_iff_exists.mpr ⟨l, hl⟩
  · intro shape
    obtain ⟨l, hl⟩ := Option.isSome_iff_exists.mp shape
    exact ⟨l.value.toRat, l, hl, rfl⟩

/-- Such a text is read as a number without a sign, the nearest one. -/
theorem Denotes.exists_read (h : Denotes text q) :
    ∃ v : Binary64, Binary64.read text = .ok v ∧ v.negative = false ∧
      Binary64.IsNearest q v.magnitude := by
  obtain ⟨l, wf, rfl, rfl⟩ := h.exists_chars
  exact ⟨l.value.toBinary64 false, Binary64.read_chars wf, rfl, l.value.isNearest_nearest⟩

end Literal

end Formulary
