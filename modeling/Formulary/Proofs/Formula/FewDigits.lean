import Formulary.Proofs.Formula.Canonical
import Formulary.Proofs.Number.Layout
import Formulary.Proofs.Number.Spacing
import Formulary.Proofs.Number.Value

/-!
# Literals of fifteen digits in formulas

A number in a formula is rounded to a double and written anew. For a literal of at most fifteen digits,
outside of the range of the subnormal numbers, both steps together change its spelling and not its value
(`FifteenDigits.canonical`): the canonical text denotes what the literal denotes. Two such literals with
different values have different doubles, so no two formulas that differ in them are equal.
-/

set_option autoImplicit false

namespace Formulary

open Literal (Denotes)

/-- The canonical text of a finite number denotes the decimal that the number is written as. -/
theorem Literal.Denotes.exists_canonical {text : String} {q : ℚ} {n : Nat} (h : Denotes text q)
    (near : Binary64.IsNearest q n) (hn : n < Binary64.infinite) :
    ∃ canonical, Token.canonical ⟨.number, text⟩ = .ok canonical ∧
      Denotes canonical (Binary64.writtenAs n).toRat := by
  obtain ⟨l, wf, rfl, rfl⟩ := h.exists_chars
  obtain rfl := Decimal.nearest_eq_iff.mpr near
  have writes := Binary64.writes_literal .canonical l.value.nearest
  refine ⟨String.ofList (Binary64.literal .canonical l.value.nearest).chars, ?_, ?_⟩
  · rw [Binary64.chars_literal]
    exact Binary64.normalize_chars wf hn
  · rw [← writes.value]
    exact Literal.denotes_chars writes.wellFormed

namespace Binary64

variable {text text' : String} {q r : ℚ}

theorem FifteenDigits.canonical (h : FifteenDigits q) (exact : Denotes text q) :
    ∃ canonical, Token.canonical ⟨.number, text⟩ = .ok canonical ∧ Denotes canonical q := by
  obtain ⟨v, -, -, near⟩ := exact.exists_read
  obtain ⟨normal, hn⟩ := h.normal near
  obtain ⟨canonical, written, value⟩ := exact.exists_canonical near hn
  rw [writtenAs_eq (by omega), h.toRat_shortest near] at value
  exact ⟨canonical, written, value⟩

/-- Two such literals that are read as one double have one value. -/
theorem FifteenDigits.eq_of_read {v : Binary64} (hq : FifteenDigits q) (hr : FifteenDigits r)
    (exact : Denotes text q) (exact' : Denotes text' r) (read : Binary64.read text = .ok v)
    (read' : Binary64.read text' = .ok v) : q = r := by
  obtain ⟨w, found, -, near⟩ := exact.exists_read
  obtain ⟨w', found', -, near'⟩ := exact'.exists_read
  obtain rfl : v = w := Except.ok.inj (read.symm.trans found)
  obtain rfl : v = w' := Except.ok.inj (read'.symm.trans found')
  rw [← hq.toRat_shortest near, hr.toRat_shortest near']

end Binary64

namespace Formula

/-- In equal formulas the tokens at one place mean the same. -/
theorem sameMeaning_of_beq {f g : Formula} (same : (f == g) = true) {i : Nat} {t u : Token}
    (ht : f.tokens[i]? = some t) (hu : g.tokens[i]? = some u) : Token.SameMeaning t u := by
  obtain ⟨bound, rfl⟩ := List.getElem?_eq_some_iff.mp ht
  obtain ⟨bound', rfl⟩ := List.getElem?_eq_some_iff.mp hu
  exact ((beq_iff f g).mp same).get bound bound'

/-- The canonical text of a literal of fifteen digits denotes the value of the literal. If at some place
two formulas have such literals with different values, they are not equal. -/
theorem fifteen_digits_kept :
    (∀ text q, Denotes text q → Binary64.FifteenDigits q →
      ∃ canonical, Token.canonical ⟨.number, text⟩ = .ok canonical ∧ Denotes canonical q) ∧
    ∀ (warn warn' : Bool) (a b : String) (f g : Formula) (ws ws' : List Warning),
      parse warn a = .ok (f, ws) → parse warn' b = .ok (g, ws') →
        ∀ (i : Nat) (text text' : String) (q r : ℚ),
          (scan a)[i]? = some ⟨.number, text⟩ → (scan b)[i]? = some ⟨.number, text'⟩ →
            Denotes text q → Denotes text' r → Binary64.FifteenDigits q → Binary64.FifteenDigits r →
              q ≠ r → (f == g) = false := by
  constructor
  · intro text q exact few
    exact few.canonical exact
  · intro warn warn' a b f g ws ws' hf hg i text text' q r ht hu exact exact' hq hr other
    rw [← (parse_eq_ok_iff.mp hf).1] at ht
    rw [← (parse_eq_ok_iff.mp hg).1] at hu
    rw [← Bool.not_eq_true]
    intro same
    obtain ⟨_, v, read, read'⟩ := sameMeaning_of_beq same ht hu
    exact other (hq.eq_of_read hr exact exact' read read')

/-- Neighbours among the decimals of fifteen digits. -/
theorem fifteen_digits_kept_neighbours :
    ∃ f g ws ws', parse true "x1+0.30000000000000" = .ok (f, ws) ∧
      parse false "X1+.300000000000001" = .ok (g, ws') ∧ (f == g) = false ∧
      ∃ canonical, Token.canonical ⟨.number, ".300000000000001"⟩ = .ok canonical ∧
        Denotes canonical (Decimal.toRat ⟨300000000000001, -15⟩) := by
  have first : ((parse true "x1+0.30000000000000").toOption.map fun p => p.1.canonical) =
      some "X1+0.3" := by
    decide +kernel
  have second : ((parse false "X1+.300000000000001").toOption.map fun p => p.1.canonical) =
      some "X1+0.300000000000001" := by
    decide +kernel
  have exact : Denotes "0.30000000000000" (Decimal.toRat ⟨30000000000000, -14⟩) :=
    Literal.denotes_of_value (by decide +kernel)
  have exact' : Denotes ".300000000000001" (Decimal.toRat ⟨300000000000001, -15⟩) :=
    Literal.denotes_of_value (by decide +kernel)
  have range : ∀ d : Decimal, d.coefficient < 10 ^ 15 → 1 / 2 ^ 2 ≤ d.toRat → d.toRat ≤ 2 ^ 971 →
      Binary64.FifteenDigits d.toRat := by
    intro d few lower upper
    have small : (1 / 2 ^ 1022 : ℚ) ≤ 1 / 2 ^ 2 :=
      one_div_pow_le_one_div_pow_of_le one_le_two (by decide)
    have large : (2 ^ 971 : ℚ) ≤ 2 ^ 1024 - 2 ^ 971 := by
      rw [le_sub_iff_add_le, ← two_mul, ← pow_succ']
      exact pow_le_pow_right₀ one_le_two (by decide)
    exact ⟨⟨d, few, rfl⟩, small.trans lower, upper.trans large⟩
  have one : (1 : ℚ) ≤ 2 ^ 971 := one_le_pow₀ one_le_two
  have few : Binary64.FifteenDigits (Decimal.toRat ⟨30000000000000, -14⟩) :=
    range _ (by decide) (by norm_num [Decimal.toRat]) (le_trans (by norm_num [Decimal.toRat]) one)
  have few' : Binary64.FifteenDigits (Decimal.toRat ⟨300000000000001, -15⟩) :=
    range _ (by decide) (by norm_num [Decimal.toRat]) (le_trans (by norm_num [Decimal.toRat]) one)
  have other : Decimal.toRat ⟨30000000000000, -14⟩ ≠ Decimal.toRat ⟨300000000000001, -15⟩ := by
    norm_num [Decimal.toRat]
  obtain ⟨f, ws, hf, -⟩ := exists_parse first
  obtain ⟨g, ws', hg, -⟩ := exists_parse second
  obtain ⟨kept, apart⟩ := fifteen_digits_kept
  exact ⟨f, g, ws, ws', hf, hg,
    apart _ _ _ _ f g ws ws' hf hg 2 _ _ _ _ (by decide +kernel) (by decide +kernel) exact exact'
      few few' other,
    kept _ _ exact' few'⟩

end Formula

end Formulary
