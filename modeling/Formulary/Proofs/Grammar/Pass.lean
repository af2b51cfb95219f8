import Formulary.Grammar
import Mathlib.Data.List.Chain

/-!
# What the pass over the tokens lets through

The rules of `Place.fault?` are written as prohibitions, in the order in which they are reported. Here
they are turned round: `Place.Allows` says what may stand at a place, as far as kinds go, and a token
breaks no rule exactly when it is sound and its kind is allowed (`fault?_eq_none_iff`). The order of the
rules is gone from that statement, and so is every text.

The pass follows: it lets a sequence through exactly when every token is sound and the kinds pass
(`walk_eq_none_iff`). What is said about formulas from here on is said about kinds.
-/

set_option autoImplicit false

namespace Formulary.Grammar

/-- What stands before calls for an operand: a number, a variable or an opening parenthesis. -/
def wantsOperand : Option Token.Kind → Bool
  | none | some .operator | some .openParen => true
  | _ => false

/-- What the rules leave over for a kind at a place. -/
def Place.Allows (p : Place) : Token.Kind → Prop
  | .number | .var => p.before.any Token.Kind.isValue = false
  | .operator => wantsOperand p.before = false ∧ p.isLast = false
  | .openParen => p.isLast = false
  | .closeParen => wantsOperand p.before = false ∧ 0 < p.depth
  | .unrecognized => True

/-- The pass of `walk`, on kinds alone. -/
def Passes : Option Token.Kind → Nat → List Token.Kind → Prop
  | _, depth, [] => depth = 0
  | before, depth, k :: ks =>
    Place.Allows ⟨before, depth, ks.isEmpty⟩ k ∧ Passes (some k) (depthAfter depth k) ks

/-! ## One token -/

theorem fault?_eq_none_iff (p : Place) (t : Token) :
    p.fault? t = none ↔ t.isSound = true ∧ p.Allows t.kind := by
  obtain ⟨before, depth, isLast⟩ := p
  obtain ⟨kind, text⟩ := t
  by_cases sound : Token.isSound ⟨kind, text⟩ = true
  · -- the rules only look at the two kinds, at whether the depth is zero, and at `isLast`
    rcases before with _ | before
    · cases kind <;> cases isLast <;>
        simp [Place.fault?, Place.Allows, wantsOperand, needsLeft, Token.Kind.isValue, sound]
    · by_cases hd : depth = 0 <;> cases before <;> cases kind <;> cases isLast <;>
        simp [Place.fault?, Place.Allows, wantsOperand, needsLeft, Token.Kind.isValue, sound, hd,
          Nat.pos_iff_ne_zero]
  · simp [Place.fault?, sound]

/-! A token that may stand at the end may also stand where others follow, and no operand is called for
behind it. -/

theorem Place.Allows.of_last {before : Option Token.Kind} {depth : Nat} {k : Token.Kind}
    (h : Place.Allows ⟨before, depth, true⟩ k) : Place.Allows ⟨before, depth, false⟩ k := by
  cases k with
  | number | var | closeParen | unrecognized => exact h
  | operator => exact absurd h.2 (by simp)
  | openParen => exact absurd h (by simp [Place.Allows])

theorem Place.Allows.wantsOperand_of_last {before : Option Token.Kind} {depth : Nat} {k : Token.Kind}
    (h : Place.Allows ⟨before, depth, true⟩ k) : wantsOperand (some k) = false := by
  cases k with
  | number | var | closeParen | unrecognized => rfl
  | operator => exact absurd h.2 (by simp)
  | openParen => exact absurd h (by simp [Place.Allows])

theorem fault?_of_last {before : Option Token.Kind} {depth : Nat} {t : Token}
    (h : Place.fault? ⟨before, depth, true⟩ t = none) :
    Place.fault? ⟨before, depth, false⟩ t = none := by
  rw [fault?_eq_none_iff] at h ⊢
  exact ⟨h.1, h.2.of_last⟩

/-! ## All tokens -/

theorem walk_eq_none_iff (before : Option Token.Kind) (depth position : Nat) (ts : List Token) :
    walk before depth position ts = none ↔
      (∀ t ∈ ts, t.isSound = true) ∧ Passes before depth (ts.map Token.kind) := by
  induction ts generalizing before depth position with
  | nil => by_cases h : depth = 0 <;> simp [walk, Passes, h]
  | cons t rest ih =>
    have one := fault?_eq_none_iff ⟨before, depth, rest.isEmpty⟩ t
    rw [walk, List.forall_mem_cons, List.map_cons, Passes, List.isEmpty_map]
    cases hf : Place.fault? ⟨before, depth, rest.isEmpty⟩ t with
    | some f =>
      rw [hf] at one
      have broken := mt one.mpr (by simp)
      constructor
      · intro h
        exact absurd h (by simp)
      · rintro ⟨⟨ht, _⟩, ha, _⟩
        exact absurd ⟨ht, ha⟩ broken
    | none =>
      obtain ⟨ht, ha⟩ := one.mp hf
      simp only [ih, ht, ha, true_and]

/-- A sequence is a formula when there is something in it, every token is sound, and the kinds pass. -/
theorem rejection?_eq_none_iff (ts : List Token) :
    rejection? ts = none ↔
      ts ≠ [] ∧ (∀ t ∈ ts, t.isSound = true) ∧ Passes none 0 (ts.map Token.kind) := by
  cases ts with
  | nil => simp [rejection?]
  | cons t rest => simp [rejection?, walk_eq_none_iff]

/-- Whatever is validated comes out as it went in, and it does so exactly when there is no rejection. -/
theorem validate_eq_ok_iff (ts us : List Token) :
    validate ts = .ok us ↔ rejection? ts = none ∧ us = ts := by
  unfold validate
  cases rejection? ts with
  | some r => simp
  | none =>
    constructor
    · intro h
      exact ⟨rfl, (Except.ok.inj h).symm⟩
    · rintro ⟨-, rfl⟩
      rfl

theorem validate_eq_error_iff (ts : List Token) (r : Rejection) :
    validate ts = .error r ↔ rejection? ts = some r := by
  unfold validate
  cases rejection? ts with
  | some r' => simp
  | none => simp

/-- No two values stand side by side in what passes. -/
theorem Passes.isChain {before : Option Token.Kind} {depth : Nat} {ks : List Token.Kind}
    (h : Passes before depth ks) :
    ks.IsChain fun a b => a.isValue = true → b.isValue = false := by
  induction ks generalizing before depth with
  | nil => exact .nil
  | cons k rest ih =>
    cases rest with
    | nil => exact .singleton k
    | cons l rest =>
      refine .cons_cons ?_ (ih h.2)
      intro hk
      have allowed := h.2.1
      cases l with
      | number | var => simp [Place.Allows, hk] at allowed
      | operator | openParen | closeParen | unrecognized => rfl

end Formulary.Grammar
