import Formulary.Proofs.Grammar.Language
import Formulary.Token.Scan
import Mathlib.Data.List.Chain

/-!
# Standard infix notation

In standard infix notation every two operands have an operator between them: an expression is a value, an
expression in parentheses, or two expressions with an operator in the middle (`Infix`). All of it is
accepted, but not everything that is accepted is of this kind, because `2(3)` is accepted.

What is missing in such sequences is an operator between the end of an operand and the start of the next
one (`Apart`), and nothing else is ever missing: the accepted sequences in standard notation are exactly
those in which operands are kept apart (`infix_iff_apart`).
-/

set_option autoImplicit false

namespace Formulary.Grammar

/-- Expressions in which an operator stands between any two operands. -/
inductive Infix : List Token.Kind → Prop
  | value {k : Token.Kind} (h : k.isValue = true) : Infix [k]
  | group {e : List Token.Kind} (he : Infix e) : Infix (.openParen :: (e ++ [.closeParen]))
  | operate {a b : List Token.Kind} (ha : Infix a) (hb : Infix b) : Infix (a ++ .operator :: b)

/-- An operand can end with the kind. -/
def endsOperand (k : Token.Kind) : Bool :=
  k.isValue || k == .closeParen

/-- An operand can start with the kind. -/
def startsOperand (k : Token.Kind) : Bool :=
  k.isValue || k == .openParen

/-- No operand starts right behind another one. -/
def Apart (ks : List Token.Kind) : Prop :=
  ks.IsChain fun a b => endsOperand a = true → startsOperand b = false

instance (ks : List Token.Kind) : Decidable (Apart ks) :=
  inferInstanceAs (Decidable (ks.IsChain _))

/-! ## The ends of an operand -/

theorem Derives.head?_startsOperand {c : Category} {ks : List Token.Kind} (h : Derives c ks) :
    ∃ k ∈ ks.head?, startsOperand k = true := by
  induction h with
  | @value k hk => exact ⟨k, rfl, by simp [startsOperand, hk]⟩
  | group _ _ => exact ⟨.openParen, rfl, rfl⟩
  | single _ ih | term _ ih => exact ih
  | juxtapose _ _ _ ih _ | operate _ _ ih _ =>
    obtain ⟨k, hk, starts⟩ := ih
    exact ⟨k, List.mem_head?_append_of_mem_head? hk, starts⟩

theorem Derives.getLast?_endsOperand {c : Category} {ks : List Token.Kind} (h : Derives c ks) :
    ∃ k ∈ ks.getLast?, endsOperand k = true := by
  induction h with
  | @value k hk => exact ⟨k, rfl, by simp [endsOperand, hk]⟩
  | @group e _ _ =>
    refine ⟨.closeParen, ?_, rfl⟩
    rw [← List.cons_append, List.getLast?_concat]
    rfl
  | single _ ih | term _ ih => exact ih
  | juxtapose _ _ _ _ ih =>
    obtain ⟨k, hk, ends⟩ := ih
    exact ⟨k, List.mem_getLast?_append_of_mem_getLast? hk, ends⟩
  | operate _ _ _ ih =>
    obtain ⟨k, hk, ends⟩ := ih
    refine ⟨k, List.mem_getLast?_append_of_mem_getLast? ?_, ends⟩
    rw [← List.singleton_append]
    exact List.mem_getLast?_append_of_mem_getLast? hk

/-! ## Standard notation is derived, and keeps operands apart -/

/-- An expression may stand on either side of an operator. -/
theorem Derives.operate_expr {c : Category} {a b : List Token.Kind} (ha : Derives .expr a)
    (hb : Derives c b) : Derives .expr (a ++ .operator :: b) := by
  induction hb with
  | value h => exact .operate ha (.single (.value h))
  | group he _ => exact .operate ha (.single (.group he))
  | single hf _ => exact .operate ha (.single hf)
  | juxtapose ht hf h _ _ => exact .operate ha (.juxtapose ht hf h)
  | term ht _ => exact .operate ha ht
  | operate _ ht ih _ =>
    rw [← List.cons_append, ← List.append_assoc]
    exact .operate ih ht

theorem Infix.derives {ks : List Token.Kind} (h : Infix ks) : Derives .expr ks := by
  induction h with
  | value h => exact .term (.single (.value h))
  | group _ ih => exact .term (.single (.group ih))
  | operate _ _ iha ihb => exact iha.operate_expr ihb

/-! Parentheses and operators keep apart whatever stands on their sides. -/

theorem apart_group {e : List Token.Kind} :
    Apart (.openParen :: (e ++ [.closeParen])) ↔ Apart e := by
  rw [Apart, List.isChain_cons, List.isChain_append, ← Apart]
  constructor
  · rintro ⟨-, apart, -⟩
    exact apart
  · intro apart
    refine ⟨fun _ _ h => absurd h (by decide), apart, .singleton _, ?_⟩
    intro _ _ k hk _
    obtain rfl : .closeParen = k := by simpa using hk
    rfl

theorem apart_operate {a b : List Token.Kind} :
    Apart (a ++ .operator :: b) ↔ Apart a ∧ Apart b := by
  rw [Apart, List.isChain_append, List.isChain_cons, ← Apart, ← Apart]
  constructor
  · rintro ⟨left, ⟨-, right⟩, -⟩
    exact ⟨left, right⟩
  · rintro ⟨left, right⟩
    refine ⟨left, ⟨fun _ _ h => absurd h (by decide), right⟩, ?_⟩
    intro _ _ k hk _
    obtain rfl : .operator = k := by simpa using hk
    rfl

theorem Infix.apart {ks : List Token.Kind} (h : Infix ks) : Apart ks := by
  induction h with
  | value _ => exact .singleton _
  | group _ ih => exact apart_group.mpr ih
  | operate _ _ iha ihb => exact apart_operate.mpr ⟨iha, ihb⟩

/-! ## What is derived and keeps operands apart is standard -/

theorem Derives.isInfix {c : Category} {ks : List Token.Kind} (h : Derives c ks)
    (apart : Apart ks) : Infix ks := by
  induction h with
  | value h => exact .value h
  | group _ ih => exact .group (ih (apart_group.mp apart))
  | single _ ih | term _ ih => exact ih apart
  | juxtapose ht hf _ _ _ =>
    -- the last kind of the term and the first one of the factor stand side by side
    obtain ⟨k, hk, ends⟩ := ht.getLast?_endsOperand
    obtain ⟨l, hl, starts⟩ := hf.head?_startsOperand
    have gap := (List.isChain_append.mp apart).2.2 k hk l hl ends
    exact absurd (starts.symm.trans gap) (by decide)
  | operate _ _ ihe iht =>
    obtain ⟨left, right⟩ := apart_operate.mp apart
    exact .operate (ihe left) (iht right)

theorem infix_iff {ks : List Token.Kind} : Infix ks ↔ Derives .expr ks ∧ Apart ks :=
  ⟨fun h => ⟨h.derives, h.apart⟩, fun h => h.1.isInfix h.2⟩

/-- Sound tokens in standard notation are the accepted sequences in which operands are kept apart. -/
theorem infix_iff_apart (ts : List Token) :
    (∀ t ∈ ts, t.isSound = true) ∧ Infix (ts.map Token.kind) ↔
      (∃ us, validate ts = .ok us) ∧ Apart (ts.map Token.kind) := by
  rw [exists_validate_iff, rejection?_eq_none_iff_derives, infix_iff, and_assoc]

/-- A number may stand in front of a parenthesis, and this is not standard notation. -/
theorem not_infix_number_group :
    validate (scan "2(3)") = .ok (scan "2(3)") ∧ ¬ Infix ((scan "2(3)").map Token.kind) := by
  have accepted : rejection? (scan "2(3)") = none := by decide +kernel
  have together : ¬ Apart ((scan "2(3)").map Token.kind) := by decide +kernel
  exact ⟨(validate_eq_ok_iff _ _).mpr ⟨accepted, rfl⟩, fun h => together h.apart⟩

end Formulary.Grammar
