import Formulary.Proofs.Grammar.Derivation

/-!
# The accepted language

What `validate` accepts, said without the pass: every token has the shape of its kind, every number has a
finite double, and the kinds are derived by the grammar of terms and factors (`validate_iff_derives`). The
tokens may come from anywhere; nothing is assumed about their texts.
-/

set_option autoImplicit false

namespace Formulary.Grammar

theorem exists_validate_iff (ts : List Token) :
    (∃ us, validate ts = .ok us) ↔ rejection? ts = none := by
  constructor
  · rintro ⟨us, h⟩
    exact ((validate_eq_ok_iff ts us).mp h).1
  · intro h
    exact ⟨ts, (validate_eq_ok_iff ts ts).mpr ⟨h, rfl⟩⟩

/-- All tokens are sound when all have their shapes and all numbers among them are finite. -/
theorem forall_isSound_iff (ts : List Token) :
    (∀ t ∈ ts, t.isSound = true) ↔ (∀ t ∈ ts, t.hasShape = true) ∧
      ∀ t ∈ ts, t.kind = .number → ∃ v, Binary64.read t.text = .ok v ∧ v.isFinite = true := by
  simp only [Token.isSound_iff]
  exact forall₂_and

/-- The accepted sequences, and that they are given back as they are. -/
theorem validate_iff_derives (ts : List Token) :
    ((∃ us, validate ts = .ok us) ↔
      (∀ t ∈ ts, t.hasShape = true) ∧
      (∀ t ∈ ts, t.kind = .number → ∃ v, Binary64.read t.text = .ok v ∧ v.isFinite = true) ∧
      Derives .expr (ts.map Token.kind)) ∧
    ∀ us, validate ts = .ok us → us = ts := by
  constructor
  · rw [exists_validate_iff, rejection?_eq_none_iff_derives, forall_isSound_iff, and_assoc]
  · intro us h
    exact ((validate_eq_ok_iff ts us).mp h).2

end Formulary.Grammar
