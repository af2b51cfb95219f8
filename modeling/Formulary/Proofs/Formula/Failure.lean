import Formulary.Proofs.Formula.Canonical
import Formulary.Session.Options

/-!
# Nothing but a rejection

Reading a number can fail, and so can writing one, and both happen more than once on the way from a text
to a formula: a number is read when its token is examined, and again when its canonical text is made or a
warning shows it. None of these ever fails. The shape of a token is looked at before its number is read,
and whatever has the shape of a number is one (`Token.examine_eq`); a number is written after its token
was found to be finite (`Token.exists_canonical`).

What is left is the verdict of the grammar. All who ask for it get the same one
(`Formula.parse_eq_error_iff`, `Formula.exists_parse_iff`).
-/

set_option autoImplicit false

namespace Formulary

namespace Token

theorem exists_canonical {t : Token} (sound : t.isSound = true) : ∃ text, t.canonical = .ok text := by
  obtain ⟨u, form, -⟩ := exists_normalForm sound
  exact ⟨u.text, form.text⟩

end Token

namespace Formula

/-! ## Formulas and rejections -/

theorem ofTokens_eq_error_iff {tokens : List Token} {e : Error} :
    ofTokens tokens = .error e ↔ ∃ r, e = .rejected r ∧ Grammar.rejection? tokens = some r := by
  unfold ofTokens
  split
  · next r rejected =>
    constructor
    · intro h
      exact ⟨r, (Except.error.inj h).symm, rejected⟩
    · rintro ⟨r', rfl, rejected'⟩
      rw [Option.some.inj (rejected.symm.trans rejected')]
  · next accepted =>
    have sound := ((Grammar.rejection?_eq_none_iff tokens).mp accepted).2.1
    obtain ⟨texts, written⟩ :=
      exists_mapM_eq_ok_iff.mpr fun t ht => Token.exists_canonical (sound t ht)
    split
    · next e' failed => exact absurd (failed.symm.trans written) nofun
    · constructor
      · intro h
        exact absurd h nofun
      · rintro ⟨r, -, rejected⟩
        exact absurd (accepted.symm.trans rejected) nofun

/-- A text fails by the rejection of its tokens, or not at all. -/
theorem parse_eq_error_iff {warn : Bool} {text : String} {e : Error} :
    parse warn text = .error e ↔
      ∃ r, e = .rejected r ∧ Grammar.rejection? (scan text) = some r := by
  rw [← ofTokens_eq_error_iff, ← parse_map_fst warn]
  cases parse warn text with
  | error e' => simp only [Except.map, Except.error.injEq]
  | ok p => exact iff_of_false nofun nofun

theorem exists_parse_iff {warn : Bool} {text : String} :
    (∃ f ws, parse warn text = .ok (f, ws)) ↔ Grammar.rejection? (scan text) = none := by
  constructor
  · rintro ⟨f, ws, h⟩
    rw [← (parse_eq_ok_iff.mp h).1]
    exact f.accepted
  · intro accepted
    cases h : parse warn text with
    | ok p => exact ⟨p.1, p.2, rfl⟩
    | error e =>
      obtain ⟨r, -, rejected⟩ := parse_eq_error_iff.mp h
      exact absurd (accepted.symm.trans rejected) nofun

end Formula

namespace Grammar

theorem diagnose_eq_none_iff (ts : List Token) : diagnose ts = none ↔ rejection? ts = none :=
  Option.map_eq_none_iff

theorem diagnose_eq_some {ts : List Token} {r : Rejection} (h : rejection? ts = some r) :
    diagnose ts = some r.fault := by
  rw [diagnose, h]
  rfl

/-- Tokens come back as they are, or are rejected with what is diagnosed. -/
theorem validate_cases (ts : List Token) :
    (validate ts = .ok ts ∧ diagnose ts = none) ∨
      ∃ r, validate ts = .error r ∧ diagnose ts = some r.fault := by
  cases h : rejection? ts with
  | none => exact .inl ⟨(validate_eq_ok_iff ts ts).mpr ⟨h, rfl⟩, (diagnose_eq_none_iff ts).mpr h⟩
  | some r => exact .inr ⟨r, (validate_eq_error_iff ts r).mpr h, diagnose_eq_some h⟩

end Grammar

namespace Formula

theorem isFormula_text_iff (text : String) :
    (Value.text text).isFormula = true ↔ Grammar.diagnose (scan text) = none := by
  show (Grammar.diagnose (scan text)).isNone = true ↔ _
  exact Option.isNone_iff_eq_none

/-- Under any options a text is a formula or is rejected, and it is rejected for what is diagnosed; to be
a formula, to be called one, and to have no diagnosis are one thing. Tokens from anywhere are validated or
rejected, no token can stop their examination, and the numbers of those that are validated can be written
and checked. -/
theorem formula_or_rejection (o : Options) :
    (∀ text : String,
      (∀ e, (Value.text text).formula o.warns = .error e →
        ∃ r, e = .rejected r ∧ Grammar.validate (scan text) = .error r ∧
          Grammar.diagnose (scan text) = some r.fault) ∧
      ((∃ f ws, (Value.text text).formula o.warns = .ok (f, ws)) ↔
        Grammar.diagnose (scan text) = none) ∧
      ((Value.text text).isFormula = true ↔ Grammar.diagnose (scan text) = none)) ∧
    ∀ ts : List Token,
      ((Grammar.validate ts = .ok ts ∧ Grammar.diagnose ts = none) ∨
        ∃ r, Grammar.validate ts = .error r ∧ Grammar.diagnose ts = some r.fault) ∧
      (∀ t ∈ ts, t.examine = .ok t.isSound) ∧
      (Grammar.validate ts = .ok ts → ∀ t ∈ ts, (∃ text, t.canonical = .ok text) ∧
        (t.kind = .number → ∃ ws, checkPrecision o.warns t.text = .ok ws)) := by
  constructor
  · intro text
    refine ⟨?_, ?_, isFormula_text_iff text⟩
    · intro e h
      obtain ⟨r, rfl, rejected⟩ := parse_eq_error_iff.mp h
      exact ⟨r, rfl, (Grammar.validate_eq_error_iff _ r).mpr rejected,
        Grammar.diagnose_eq_some rejected⟩
    · rw [Grammar.diagnose_eq_none_iff]
      exact exists_parse_iff
  · intro ts
    refine ⟨Grammar.validate_cases ts, fun t _ => t.examine_eq, ?_⟩
    intro valid t ht
    have accepted := ((Grammar.validate_eq_ok_iff ts ts).mp valid).1
    have sound := ((Grammar.rejection?_eq_none_iff ts).mp accepted).2.1 t ht
    obtain ⟨text, written⟩ := Token.exists_canonical sound
    exact ⟨⟨text, written⟩, fun number => Token.exists_checkPrecision number written o.warns⟩

end Formula

end Formulary
