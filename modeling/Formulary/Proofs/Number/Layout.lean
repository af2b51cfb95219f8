import Formulary.Proofs.Number.Minimal
import Formulary.Proofs.Precision

/-!
# The text of a number has nothing to spare

The digits of a number are those of its shortest decimal, and they begin and end with a digit other than
zero (`Binary64.coefficient_shortest_mod`). From that alone both layouts get their form: a point is only written
between digits, no fraction ends in a zero, and the one zero a number can begin with stands before its
point (`Literal.Tidy`). The zeros that the positional layout adds are therefore all at the ends, and
counting the digits of the text counts those of the decimal.

`Binary64.Minimal` collects what is said about a finite number: its literal is as short as any that reads
back and as near as any that is as short.
-/

set_option autoImplicit false

namespace Formulary

/-! ## Digits between no zeros -/

namespace Text

/-- The digits begin and end, and do neither with a zero. -/
structure Trimmed (s : List Char) : Prop where
  ne_nil : s ≠ []
  head : s.head? ≠ some '0'
  last : s.getLast? ≠ some '0'

theorem dropWhile_append_of_head {p : Char → Bool} {s : List Char} (b : List Char) (ne : s ≠ [])
    (front : ∀ c ∈ s.head?, p c = false) : (s ++ b).dropWhile p = s ++ b := by
  cases s with
  | nil => exact absurd rfl ne
  | cons c s =>
    apply List.dropWhile_cons_of_neg
    simp [front c rfl]

/-- Trimming takes the runs on both sides and no more. -/
theorem trim_append {p : Char → Bool} {a s b : List Char} (ha : ∀ c ∈ a, p c = true)
    (hb : ∀ c ∈ b, p c = true) (ne : s ≠ []) (front : ∀ c ∈ s.head?, p c = false)
    (back : ∀ c ∈ s.getLast?, p c = false) : trim p (a ++ (s ++ b)) = s := by
  have behind : ∀ c ∈ b.reverse, p c = true := fun c hc => hb c (List.mem_reverse.mp hc)
  have kept := dropWhile_append_of_head [] (List.reverse_ne_nil_iff.mpr ne)
    (by rwa [List.head?_reverse])
  rw [List.append_nil] at kept
  rw [trim, List.dropWhile_append_of_pos ha, dropWhile_append_of_head b ne front, List.reverse_append,
    List.dropWhile_append_of_pos behind, kept, List.reverse_reverse]

theorem Trimmed.trim_zeros {s : List Char} (h : Trimmed s) (a b : Nat) :
    trim (· == '0') (List.replicate a '0' ++ (s ++ List.replicate b '0')) = s := by
  apply trim_append beq_of_mem_zeros beq_of_mem_zeros h.ne_nil
  · intro c hc
    exact beq_false_of_ne fun e => h.head (e ▸ hc)
  · intro c hc
    exact beq_false_of_ne fun e => h.last (e ▸ hc)

end Text

theorem eq_zero_of_digitChar {d : Nat} (h : d < 10) (zero : Nat.digitChar d = '0') : d = 0 := by
  revert d
  decide

theorem head?_toDigits {n : Nat} (h : 0 < n) : (Nat.toDigits 10 n).head? ≠ some '0' := by
  induction n using Nat.strongRecOn with
  | ind n ih =>
    by_cases small : n < 10
    · rw [Nat.toDigits_of_lt_base small]
      intro zero
      exact h.ne' (eq_zero_of_digitChar small (Option.some.inj zero))
    · -- the first digit is that of the tens
      have tens : n / 10 < n := Nat.div_lt_self h (by decide)
      rw [Nat.toDigits_of_base_le (by decide) (Nat.le_of_not_lt small),
        List.head?_append_of_ne_nil _ Nat.toDigits_ne_nil]
      exact ih _ tens (by omega)

theorem getLast?_toDigits (n : Nat) :
    (Nat.toDigits 10 n).getLast? = some (Nat.digitChar (n % 10)) := by
  by_cases small : n < 10
  · rw [Nat.toDigits_of_lt_base small, Nat.mod_eq_of_lt small]
    rfl
  · rw [Nat.toDigits_of_base_le (by decide) (Nat.le_of_not_lt small), List.getLast?_concat]

namespace Decimal

theorem coefficient_reduce (d : Decimal) :
    d.reduce.coefficient = 0 ∨ d.reduce.coefficient % 10 ≠ 0 := by
  fun_induction reduce d with
  | case1 d h ih => exact ih
  | case2 d h => omega

theorem trimmed_digits {d : Decimal} (h : d.coefficient % 10 ≠ 0) : Text.Trimmed d.digits := by
  refine ⟨d.digits_ne_nil, head?_toDigits (by omega), ?_⟩
  rw [digits, getLast?_toDigits]
  intro zero
  exact h (eq_zero_of_digitChar (Nat.mod_lt _ (by decide)) (Option.some.inj zero))

end Decimal

/-! ## Tidy literals -/

/-- No point at the end, no zero at the end of a fraction, and none in front but the one before a point. -/
structure Literal.Tidy (l : Literal) : Prop where
  whole : l.whole ≠ []
  point : l.fraction ≠ some []
  fraction : ∀ f ∈ l.fraction, f.getLast? ≠ some '0'
  leading : l.whole.head? = some '0' → l.whole = ['0'] ∧ l.fraction ≠ none

namespace Decimal

theorem tidy_positionalLiteral {d : Decimal} (h : d.coefficient % 10 ≠ 0) :
    d.positionalLiteral.Tidy := by
  have own := trimmed_digits h
  have some_digits : 0 < d.digits.length := List.length_pos_iff.mpr own.ne_nil
  unfold positionalLiteral
  split
  · refine ⟨by simp [own.ne_nil], nofun, nofun, ?_⟩
    intro zero
    simp only [List.head?_append_of_ne_nil _ own.ne_nil] at zero
    exact absurd zero own.head
  split
  · next below inside =>
    -- the point leaves a digit on either side
    have before : d.digits.length - (-d.exponent).toNat ≠ 0 := by omega
    have behind : d.digits.drop (d.digits.length - (-d.exponent).toNat) ≠ [] := by
      simp
      omega
    refine ⟨by simp [before, own.ne_nil], by simpa using behind, ?_, ?_⟩
    · intro f hf
      obtain rfl := Option.mem_some.mp hf
      rw [List.getLast?_drop, if_neg (by omega)]
      exact own.last
    · intro zero
      simp only [List.head?_take, if_neg before] at zero
      exact absurd zero own.head
  · refine ⟨nofun, by simp [own.ne_nil], ?_, fun _ => ⟨rfl, nofun⟩⟩
    intro f hf
    obtain rfl := Option.mem_some.mp hf
    rw [List.getLast?_append_of_ne_nil _ own.ne_nil]
    exact own.last

theorem scale_positionalLiteral (d : Decimal) : d.positionalLiteral.scale = none := by
  unfold positionalLiteral
  split
  · rfl
  split
  · rfl
  · rfl

theorem tidy_scientificLiteral {d : Decimal} (width : Nat) (h : d.coefficient % 10 ≠ 0) :
    (d.scientificLiteral width).Tidy := by
  have own := trimmed_digits h
  unfold scientificLiteral
  refine ⟨by simp [own.ne_nil], ?_, ?_, ?_⟩
  · change (if _ then _ else _) ≠ _
    split
    · nofun
    · next more => simpa using more
  · intro f hf
    change (if _ then _ else _) = _ at hf
    split at hf
    · exact nomatch hf
    · next more =>
      obtain rfl := Option.some.inj hf
      have long : ¬ d.digits.length ≤ 1 := fun few => more (List.drop_eq_nil_iff.mpr few)
      rw [List.getLast?_drop, if_neg long]
      exact own.last
  · intro zero
    simp only [List.head?_take] at zero
    exact absurd zero own.head

end Decimal

namespace Binary64

/-! ## The literal of a magnitude -/

theorem coefficient_shortest_mod {n : Nat} (h0 : 0 < n) (hn : n < infinite) :
    (shortest n).coefficient % 10 ≠ 0 := by
  obtain ⟨d, -, -, hs⟩ := exists_shortest h0 hn
  have pos := coefficient_pos (Decimal.nearest_eq_iff.mp (nearest_shortest h0 hn)) h0
  rw [hs] at *
  exact d.coefficient_reduce.resolve_left pos.ne'

theorem significantDigits_of_writes {d : Decimal} {l : Literal} (h : d.Writes l)
    (ends : d.coefficient % 10 ≠ 0) : significantDigits l.chars = d.digits.length := by
  obtain ⟨a, b, digits⟩ := h.digits
  rw [significantDigits, mantissaDigits_chars h.wellFormed, digits,
    (Decimal.trimmed_digits ends).trim_zeros]

theorem toRat_upper : toRat (Decimal.nearest ⟨1, 15⟩) = 10 ^ 15 := by
  have value : units (Decimal.nearest ⟨1, 15⟩) = 10 ^ 15 * 2 ^ 1074 := by decide +kernel
  rw [toRat, value, Nat.cast_mul, Nat.cast_pow, Nat.cast_pow, Nat.cast_ofNat, Nat.cast_ofNat]
  exact mul_div_cancel_right₀ _ (by positivity)

theorem isPositional_canonical {n : Nat} (h0 : 0 < n) :
    isPositional .canonical n = true ↔
      toRat (Decimal.nearest ⟨1, -5⟩) ≤ toRat n ∧ toRat n < 10 ^ 15 := by
  have zero : (n == 0) = false := beq_false_of_ne h0.ne'
  -- patterns are compared, and they lie like their values
  rw [isPositional, zero, Bool.false_or, Bool.and_eq_true, decide_eq_true_iff, decide_eq_true_iff,
    ← toRat_upper, toRat_strictMono.le_iff_le, toRat_strictMono.lt_iff_lt]
  rfl

theorem writtenAs_eq {n : Nat} (h0 : 0 < n) : writtenAs n = shortest n :=
  if_neg h0.ne'

theorem tidy_literal {n : Nat} (layout : Layout) (h0 : 0 < n) (hn : n < infinite) :
    (literal layout n).Tidy := by
  have ends := coefficient_shortest_mod h0 hn
  rw [literal, writtenAs_eq h0]
  split
  · exact Decimal.tidy_positionalLiteral ends
  · exact Decimal.tidy_scientificLiteral _ ends

theorem scale_literal (layout : Layout) (n : Nat) :
    (literal layout n).scale = none ↔ isPositional layout n = true := by
  rw [literal]
  split
  · next h => exact iff_of_true (Decimal.scale_positionalLiteral _) h
  · next h => exact iff_of_false nofun h

/-! ## Minimal literals -/

/-- The literal reads back as the magnitude; with fewer digits none does, and with as many none that does
is nearer. It has an exponent just outside of the range, and is tidy. -/
structure Minimal (n : Nat) (l : Literal) : Prop where
  wellFormed : l.WellFormed
  nearest : IsNearest l.value.toRat n
  few : significantDigits l.chars ≤ maxDigits
  shortest : ∀ d : Decimal, IsNearest d.toRat n → significantDigits l.chars ≤ d.significant
  closest : ∀ d : Decimal, IsNearest d.toRat n → d.significant = significantDigits l.chars →
    |toRat n - l.value.toRat| ≤ |toRat n - d.toRat|
  positional : l.scale = none ↔ toRat (Decimal.nearest ⟨1, -5⟩) ≤ toRat n ∧ toRat n < 10 ^ 15
  tidy : l.Tidy

theorem minimal_literal {n : Nat} (h0 : 0 < n) (hn : n < infinite) :
    Minimal n (literal .canonical n) := by
  have writes := writes_literal .canonical n
  rw [writtenAs_eq h0] at writes
  have count := significantDigits_of_writes writes (coefficient_shortest_mod h0 hn)
  refine ⟨writes.wellFormed, ?_, ?_, ?_, ?_, ?_, tidy_literal _ h0 hn⟩
  · rw [writes.value]
    exact Decimal.nearest_eq_iff.mp (nearest_shortest h0 hn)
  · rw [count]
    exact ((shortest n).length_digits_le_iff (by decide)).mpr (coefficient_shortest_lt h0 hn)
  · intro d hd
    rw [count]
    exact shortest_le h0 hn hd
  · intro d hd as
    rw [writes.value]
    exact shortest_nearest h0 hn hd (as.trans count)
  · rw [scale_literal, isPositional_canonical h0]

/-- Every finite number but zero is written as a minimal literal, behind its sign. -/
theorem minimal_rendering (v : Binary64) (finite : v.isFinite = true) (nonzero : v.magnitude ≠ 0) :
    ∃ l : Literal,
      v.render = .ok (String.ofList ((if v.negative then ['-'] else []) ++ l.chars)) ∧
        Minimal v.magnitude l := by
  refine ⟨literal .canonical v.magnitude, ?_,
    minimal_literal (Nat.pos_of_ne_zero nonzero) (of_decide_eq_true finite)⟩
  rw [render, if_pos finite, finiteText, chars_literal]
  split
  · rfl
  · rfl

/-- The smallest number, which every decimal between half of it and one and a half reads back as. -/
theorem minimal_rendering_least :
    (ofBits 1).isFinite = true ∧ (ofBits 1).magnitude ≠ 0 ∧
      ∃ l : Literal,
        (ofBits 1).render =
            .ok (String.ofList ((if (ofBits 1).negative then ['-'] else []) ++ l.chars)) ∧
          Minimal (ofBits 1).magnitude l := by
  have finite : (ofBits 1).isFinite = true := by decide +kernel
  have nonzero : (ofBits 1).magnitude ≠ 0 := by decide +kernel
  exact ⟨finite, nonzero, minimal_rendering (ofBits 1) finite nonzero⟩

end Binary64

end Formulary
