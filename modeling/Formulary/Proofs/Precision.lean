import Formulary.Precision
import Formulary.Proofs.Number.Rendering
import Mathlib.Data.List.TakeWhile

/-!
# Canonical numbers are exact

The warnings about a loss of precision count digits on the text of a literal. On a literal in its parts
the digits are those before and after the point (`mantissaDigits_chars`), and a literal that spells a
magnitude has at most seventeen of them between the zeros at its ends (`significantDigits_le`), so that
it is never warned about.
-/

set_option autoImplicit false

namespace Formulary

namespace Text

/-- What stands between two runs of the class is at least as long as what trimming leaves. -/
theorem length_trim_le {p : Char → Bool} {a s b : List Char} (ha : ∀ c ∈ a, p c = true)
    (hb : ∀ c ∈ b, p c = true) : (trim p (a ++ (s ++ b))).length ≤ s.length := by
  have back : ∀ c ∈ b.reverse, p c = true := fun c hc => hb c (List.mem_reverse.mp hc)
  rw [trim, List.length_reverse, List.dropWhile_append_of_pos ha, List.dropWhile_append]
  split
  · -- nothing stands out, and the second run goes with the rest
    rw [List.dropWhile_eq_nil_iff.mpr hb]
    exact Nat.zero_le _
  · rw [List.reverse_append, List.dropWhile_append_of_pos back]
    calc ((s.dropWhile p).reverse.dropWhile p).length
        ≤ (s.dropWhile p).reverse.length := List.length_dropWhile_le _ _
      _ = (s.dropWhile p).length := List.length_reverse
      _ ≤ s.length := List.length_dropWhile_le _ _

end Text

theorem isMark_of_isDigit {c : Char} (h : c.isDigit = true) : Literal.isMark c = false := by
  cases hm : Literal.isMark c with
  | false => rfl
  | true => exact absurd h (by simp [Literal.isDigit_of_isMark hm])

theorem filter_point_of_isDigit {s : List Char} (h : ∀ c ∈ s, c.isDigit = true) :
    s.filter (· ≠ '.') = s := by
  refine List.filter_eq_self.mpr fun c hc => decide_eq_true ?_
  rintro rfl
  exact absurd (h '.' hc) (by decide)

/-- The digits before the exponent, when the literal is known in its parts. -/
theorem mantissaDigits_chars {l : Literal} (h : l.WellFormed) :
    mantissaDigits l.chars = l.whole ++ l.fraction.getD [] := by
  obtain ⟨whole, fraction, scale⟩ := l
  have unmarked : ∀ c ∈ whole ++ fraction.elim [] ('.' :: ·), !Literal.isMark c := by
    intro c hc
    rcases List.mem_append.mp hc with hc | hc
    · rw [isMark_of_isDigit (h.whole c hc)]
      rfl
    · cases fraction with
      | none => exact absurd hc List.not_mem_nil
      | some f =>
        rcases List.mem_cons.mp hc with rfl | hc
        · rfl
        · rw [isMark_of_isDigit (h.fraction f rfl c hc)]
          rfl
  have stop : ∀ c ∈ (scale.elim [] Literal.Scale.chars).head?, (!Literal.isMark c) = false := by
    intro c hc
    cases scale with
    | none => exact absurd hc (by simp)
    | some e =>
      obtain rfl : e.mark = c := by simpa [Literal.Scale.chars] using hc
      rw [(h.scale e rfl).mark]
      rfl
  rw [mantissaDigits, Literal.chars, ← List.append_assoc, Text.takeWhile_append unmarked stop,
    List.filter_append, filter_point_of_isDigit h.whole]
  congr 1
  cases fraction with
  | none => rfl
  | some f =>
    rw [Option.elim_some, Option.getD_some, List.filter_cons_of_neg (by simp)]
    exact filter_point_of_isDigit (h.fraction f rfl)

theorem beq_of_mem_zeros {k : Nat} : ∀ c ∈ List.replicate k '0', (c == '0') = true := by
  intro c hc
  rw [List.eq_of_mem_replicate hc]
  rfl

theorem significantDigits_le {n : Nat} {l : Literal} (h : Binary64.Spells n l) :
    significantDigits l.chars ≤ Binary64.maxDigits := by
  obtain ⟨a, b, ds, digits, few⟩ := h.digits
  rw [significantDigits, mantissaDigits_chars h.wellFormed, digits]
  exact Nat.le_trans (Text.length_trim_le beq_of_mem_zeros beq_of_mem_zeros) few

/-- A literal that spells a magnitude is not warned about. -/
theorem checkPrecision_of_spells (warn : Bool) {n : Nat} {l : Literal} (h : Binary64.Spells n l) :
    checkPrecision warn (String.ofList l.chars) = .ok [] := by
  have few := significantDigits_le h
  rw [checkPrecision, String.toList_ofList, decide_eq_false (by omega), Bool.and_false,
    if_neg Bool.false_ne_true]

end Formulary
