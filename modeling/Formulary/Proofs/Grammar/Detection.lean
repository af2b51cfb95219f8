import Formulary.Proofs.Grammar.Language
import Formulary.Token.Scan

/-!
# Rejections come as early as they can

A token is rejected at the first place where nothing that follows could help. What was read before it can
always be completed, and once it has been rejected with more tokens behind it, these tokens do not matter:
whatever stands there, the rejection is the same (`earliest_detection`). The last token is different, for
it may break a rule only because it is the last.

Both halves rest on what the pass knows: the kind before, and how many parentheses are open. `Reads` is the
pass over tokens that more tokens follow, from one such place to another, and the pass over a longer
sequence goes on from there (`Reads.walk_append`). From every place there is a way to the end
(`exists_completion`).
-/

set_option autoImplicit false

namespace Formulary.Grammar

variable {before before' : Option Token.Kind} {depth depth' : Nat}

/-! ## Reading with more to come -/

/-- The tokens break no rule where others follow them, and lead from one place to another. -/
inductive Reads : Option Token.Kind → Nat → List Token → Option Token.Kind → Nat → Prop
  | nil {before : Option Token.Kind} {depth : Nat} : Reads before depth [] before depth
  | cons {before before' : Option Token.Kind} {depth depth' : Nat} {t : Token} {rest : List Token}
      (free : Place.fault? ⟨before, depth, false⟩ t = none)
      (h : Reads (some t.kind) (depthAfter depth t.kind) rest before' depth') :
      Reads before depth (t :: rest) before' depth'

theorem walk_cons_of_free {t : Token} {rest : List Token}
    (free : Place.fault? ⟨before, depth, rest.isEmpty⟩ t = none) (position : Nat) :
    walk before depth position (t :: rest) =
      walk (some t.kind) (depthAfter depth t.kind) (position + 1) rest := by
  rw [walk, free]

theorem walk_cons_of_fault {t : Token} {rest : List Token} {f : Fault}
    (broken : Place.fault? ⟨before, depth, rest.isEmpty⟩ t = some f) (position : Nat) :
    walk before depth position (t :: rest) = some ⟨f, some t, some position⟩ := by
  rw [walk, broken]

theorem isEmpty_append_of_ne_nil {us : List Token} (hne : us ≠ []) (ts : List Token) :
    (ts ++ us).isEmpty = false := by
  simp [hne]

theorem Reads.walk_append {ts us : List Token} (h : Reads before depth ts before' depth')
    (hne : us ≠ []) (position : Nat) :
    walk before depth position (ts ++ us) = walk before' depth' (position + ts.length) us := by
  induction h generalizing position with
  | nil => rfl
  | @cons before _ depth _ t rest free _ ih =>
    have more : (rest ++ us).isEmpty = false := isEmpty_append_of_ne_nil hne rest
    rw [List.cons_append, walk_cons_of_free (by rw [more]; exact free), ih, List.length_cons]
    congr 1
    omega

theorem rejection?_of_ne_nil {us : List Token} (hne : us ≠ []) :
    rejection? us = walk none 0 0 us := by
  simp [rejection?, hne]

theorem Reads.rejection?_append {ts us : List Token} (h : Reads none 0 ts before depth)
    (hne : us ≠ []) : rejection? (ts ++ us) = walk before depth ts.length us := by
  rw [rejection?_of_ne_nil (List.append_ne_nil_of_right_ne_nil ts hne), h.walk_append hne,
    Nat.zero_add]

/-! ## Where the pass ends -/

/-- The pass ends at a token that breaks a rule, or behind all tokens with a parenthesis open. -/
theorem walk_eq_some {ts : List Token} {position : Nat} {r : Rejection}
    (h : walk before depth position ts = some r) :
    (∃ pre t rest before' depth' f, ts = pre ++ t :: rest ∧ Reads before depth pre before' depth' ∧
      Place.fault? ⟨before', depth', rest.isEmpty⟩ t = some f ∧
      r = ⟨f, some t, some ((position + pre.length : Nat) : Int)⟩) ∨
    ∃ before' depth', Reads before depth ts before' depth' ∧ 0 < depth' ∧ r.position = none ∧
      (ts ≠ [] → wantsOperand before' = false) := by
  induction ts generalizing before depth position with
  | nil =>
    rw [walk] at h
    split at h
    · contradiction
    · next hopen =>
      refine .inr ⟨before, depth, .nil, Nat.pos_of_ne_zero hopen, ?_, fun hne => absurd rfl hne⟩
      rw [← Option.some.inj h]
  | cons t rest ih =>
    cases hf : Place.fault? ⟨before, depth, rest.isEmpty⟩ t with
    | some f =>
      rw [walk_cons_of_fault hf] at h
      exact .inl ⟨[], t, rest, before, depth, f, rfl, .nil, hf, (Option.some.inj h).symm⟩
    | none =>
      rw [walk_cons_of_free hf] at h
      have free : Place.fault? ⟨before, depth, false⟩ t = none := by
        cases rest with
        | nil => exact fault?_of_last hf
        | cons _ _ => exact hf
      rcases ih h with ⟨pre, u, rest', b, d, f, rfl, reads, broken, hr⟩ | ⟨b, d, reads, hd, hr, ends⟩
      · refine .inl ⟨t :: pre, u, rest', b, d, f, rfl, .cons free reads, broken, ?_⟩
        rw [hr, List.length_cons, Nat.add_assoc, Nat.add_comm 1]
      · refine .inr ⟨b, d, .cons free reads, hd, hr, fun _ => ?_⟩
        cases rest with
        | nil =>
          cases reads
          exact ((fault?_eq_none_iff _ _).mp hf).2.wantsOperand_of_last
        | cons _ _ => exact ends (List.cons_ne_nil _ _)

/-! ## Ways to the end -/

def closing : Token :=
  ⟨.closeParen, ")"⟩

/-- Behind an operand nothing but closing parentheses is needed, as many as are open. -/
theorem walk_closing_iff (hw : wantsOperand before = false) (n position : Nat) :
    walk before depth position (List.replicate n closing) = none ↔ n = depth := by
  induction n generalizing before depth position with
  | zero =>
    rw [List.replicate_zero, walk]
    split
    · next h => simp [h]
    · next h => simp [Ne.symm h]
  | succ n ih =>
    have sound : closing.isSound = true := by decide
    rw [List.replicate_succ]
    cases depth with
    | zero =>
      -- there is nothing to close
      have broken : Place.fault? ⟨before, 0, (List.replicate n closing).isEmpty⟩ closing ≠ none := by
        intro free
        have allowed := ((fault?_eq_none_iff _ _).mp free).2
        exact absurd allowed.2 (by simp)
      obtain ⟨f, hf⟩ := Option.ne_none_iff_exists'.mp broken
      rw [walk_cons_of_fault hf]
      simp
    | succ depth =>
      have free : Place.fault? ⟨before, depth + 1, (List.replicate n closing).isEmpty⟩ closing =
          none :=
        (fault?_eq_none_iff _ _).mpr ⟨sound, hw, Nat.succ_pos depth⟩
      rw [walk_cons_of_free free, ih rfl]
      show n = depth + 1 - 1 ↔ n + 1 = depth + 1
      omega

/-- From every place some tokens lead to the end. -/
theorem exists_completion (before : Option Token.Kind) (depth : Nat) :
    ∃ us : List Token, us ≠ [] ∧ ∀ position, walk before depth position us = none := by
  have operand : ∀ b : Option Token.Kind, wantsOperand b = true → ∀ position,
      walk b depth position (⟨.var, "x1"⟩ :: List.replicate depth closing) = none := by
    intro b hb position
    have free : Place.fault? ⟨b, depth, (List.replicate depth closing).isEmpty⟩ ⟨.var, "x1"⟩ =
        none := by
      refine (fault?_eq_none_iff _ _).mpr ⟨by decide, ?_⟩
      show b.any Token.Kind.isValue = false
      rcases b with _ | k
      · rfl
      · cases k with
        | operator | openParen => rfl
        | number | var | closeParen | unrecognized => exact absurd hb (by simp [wantsOperand])
    rw [walk_cons_of_free free]
    exact (walk_closing_iff rfl depth (position + 1)).mpr rfl
  cases hw : wantsOperand before with
  | true => exact ⟨_, List.cons_ne_nil _ _, operand before hw⟩
  | false =>
    refine ⟨⟨.operator, "+"⟩ :: ⟨.var, "x1"⟩ :: List.replicate depth closing,
      List.cons_ne_nil _ _, fun position => ?_⟩
    have free : Place.fault? ⟨before, depth, false⟩ ⟨.operator, "+"⟩ = none :=
      (fault?_eq_none_iff _ _).mpr ⟨by decide, hw, rfl⟩
    rw [walk_cons_of_free free]
    exact operand (some .operator) rfl (position + 1)

/-! ## Parentheses -/

/-- How many opening parentheses no closing one answers. -/
def unmatched (ts : List Token) : Nat :=
  (ts.map Token.kind).foldl depthAfter 0

theorem Reads.depth_eq {ts : List Token} (h : Reads before depth ts before' depth') :
    (ts.map Token.kind).foldl depthAfter depth = depth' := by
  induction h with
  | nil => rfl
  | cons _ _ ih => exact ih

/-- What is open was opened and not closed. -/
theorem Reads.count_eq {ts : List Token} (h : Reads before depth ts before' depth') :
    depth + ts.countP (·.kind == .openParen) = depth' + ts.countP (·.kind == .closeParen) := by
  induction h with
  | nil => rfl
  | @cons before _ depth _ t rest free _ ih =>
    have allowed := ((fault?_eq_none_iff _ _).mp free).2
    rw [List.countP_cons, List.countP_cons]
    cases hk : t.kind with
    | number | var | operator | unrecognized =>
      simpa [hk, depthAfter] using ih
    | openParen =>
      rw [hk] at ih
      simp only [depthAfter] at ih
      simp
      omega
    | closeParen =>
      rw [hk] at ih allowed
      have pos : 0 < depth := allowed.2
      simp only [depthAfter] at ih
      simp
      omega

/-! ## The earliest place -/

/-- The tokens form a formula. -/
def Accepted (ts : List Token) : Prop :=
  ∃ us, validate ts = .ok us

theorem accepted_iff (ts : List Token) : Accepted ts ↔ rejection? ts = none :=
  exists_validate_iff ts

/-- A rule broken by a token that others follow is broken whatever follows. -/
theorem Reads.rejection?_of_fault {pre us : List Token} {t : Token} {f : Fault}
    (h : Reads none 0 pre before depth) (broken : Place.fault? ⟨before, depth, false⟩ t = some f)
    (hne : us ≠ []) :
    rejection? (pre ++ t :: us) = some ⟨f, some t, some (pre.length : Int)⟩ := by
  have more : us.isEmpty = false := by simp [hne]
  rw [h.rejection?_append (List.cons_ne_nil _ _)]
  exact walk_cons_of_fault (by rw [more]; exact broken) pre.length

/-- Not even the end of the sequence makes up for it. -/
theorem Reads.not_accepted_of_fault {pre : List Token} {t : Token} {f : Fault}
    (h : Reads none 0 pre before depth) (broken : Place.fault? ⟨before, depth, false⟩ t = some f)
    (us : List Token) : ¬ Accepted (pre ++ t :: us) := by
  rw [accepted_iff]
  intro accepted
  cases us with
  | cons u us =>
    rw [h.rejection?_of_fault broken (List.cons_ne_nil u us)] at accepted
    exact absurd accepted nofun
  | nil =>
    rw [h.rejection?_append (List.cons_ne_nil _ _)] at accepted
    cases hf : Place.fault? ⟨before, depth, true⟩ t with
    | none => exact absurd ((fault?_of_last hf).symm.trans broken) nofun
    | some f' =>
      rw [walk_cons_of_fault hf] at accepted
      exact absurd accepted nofun

/-- With parentheses open at the end, closing all of them is what is missing. -/
theorem Reads.accepted_closing_iff {ts : List Token} (h : Reads none 0 ts before depth)
    (hd : 0 < depth) (hw : wantsOperand before = false) (rejected : rejection? ts ≠ none) (n : Nat) :
    Accepted (ts ++ List.replicate n closing) ↔ n = unmatched ts := by
  rw [accepted_iff, unmatched, h.depth_eq]
  cases n with
  | zero =>
    rw [List.replicate_zero, List.append_nil]
    exact iff_of_false rejected (by omega)
  | succ n =>
    have hne : List.replicate (n + 1) closing ≠ [] := List.cons_ne_nil _ _
    rw [h.rejection?_append hne]
    exact walk_closing_iff hw (n + 1) ts.length

/-- A rejection with a place comes at the first place where it is certain. What stands before the place
can be completed. If the token there is not the last one, nothing that starts like this is accepted, and
all that goes on is rejected in the same way. A rejection without a place is about parentheses that are
open, and exactly as many closing ones at the end are missing. -/
theorem earliest_detection {ts : List Token} {r : Rejection} (hne : ts ≠ [])
    (h : validate ts = .error r) :
    (∃ p < ts.length, r.position = some (p : Int) ∧
      (∃ us, Accepted (ts.take p ++ us)) ∧
      (p + 1 < ts.length → ∀ us, ¬ Accepted (ts.take (p + 1) ++ us) ∧
        (us ≠ [] → validate (ts.take (p + 1) ++ us) = .error r))) ∨
    (r.position = none ∧
      ts.countP (·.kind == .openParen) = unmatched ts + ts.countP (·.kind == .closeParen) ∧
      ∀ n, Accepted (ts ++ List.replicate n closing) ↔ n = unmatched ts) := by
  have rejected := (validate_eq_error_iff ts r).mp h
  have passed := rejected
  rw [rejection?_of_ne_nil hne] at passed
  rcases walk_eq_some passed with
    ⟨pre, t, rest, before, depth, f, rfl, reads, broken, hr⟩ | ⟨before, depth, reads, hd, hr, ends⟩
  · rw [Nat.zero_add] at hr
    have start : (pre ++ t :: rest).take (pre.length + 1) = pre ++ [t] := by
      rw [List.take_length_add_append]
      rfl
    refine .inl ⟨pre.length, by simp, by rw [hr], ?_, ?_⟩
    · obtain ⟨us, hus, completes⟩ := exists_completion before depth
      refine ⟨us, ?_⟩
      rw [List.take_left, accepted_iff, reads.rejection?_append hus]
      exact completes pre.length
    · intro more us
      have others : rest.isEmpty = false := by
        cases rest with
        | nil => simp at more
        | cons _ _ => rfl
      rw [others] at broken
      rw [start, List.append_assoc, List.singleton_append]
      refine ⟨reads.not_accepted_of_fault broken us, fun hus => ?_⟩
      rw [validate_eq_error_iff, hr]
      exact reads.rejection?_of_fault broken hus
  · have count := reads.count_eq
    rw [Nat.zero_add, ← reads.depth_eq] at count
    refine .inr ⟨hr, count, ?_⟩
    exact reads.accepted_closing_iff hd (ends hne) (by rw [rejected]; exact nofun)

/-- A group that ends too early, and two groups that never end. -/
theorem earliest_detection_groups :
    (scan "(x1+)*2" ≠ [] ∧
      validate (scan "(x1+)*2") =
        .error ⟨.invalidBeforeCloseParen, some ⟨.closeParen, ")"⟩, some 3⟩ ∧
      (∃ us, Accepted ((scan "(x1+)*2").take 3 ++ us)) ∧
      ∀ us, ¬ Accepted ((scan "(x1+)*2").take 4 ++ us)) ∧
    (scan "((x1" ≠ [] ∧
      validate (scan "((x1") = .error ⟨.unbalancedParens, none, none⟩ ∧
      ∀ n, Accepted (scan "((x1" ++ List.replicate n closing) ↔ n = 2) := by
  have some₁ : scan "(x1+)*2" ≠ [] := by decide +kernel
  have some₂ : scan "((x1" ≠ [] := by decide +kernel
  have rejected₁ : validate (scan "(x1+)*2") =
      .error ⟨.invalidBeforeCloseParen, some ⟨.closeParen, ")"⟩, some 3⟩ := by
    decide +kernel
  have rejected₂ : validate (scan "((x1") = .error ⟨.unbalancedParens, none, none⟩ := by
    decide +kernel
  refine ⟨⟨some₁, rejected₁, ?_⟩, some₂, rejected₂, ?_⟩
  · rcases earliest_detection some₁ rejected₁ with ⟨p, -, place, completes, certain⟩ | ⟨nowhere, -⟩
    · have same : (3 : Int) = p := Option.some.inj place
      obtain rfl : p = 3 := by omega
      have more : 3 + 1 < (scan "(x1+)*2").length := by decide +kernel
      exact ⟨completes, fun us => (certain more us).1⟩
    · exact absurd nowhere nofun
  · rcases earliest_detection some₂ rejected₂ with ⟨p, -, place, -⟩ | ⟨-, -, closes⟩
    · exact absurd place nofun
    · have two : unmatched (scan "((x1") = 2 := by decide +kernel
      intro n
      rw [closes, two]

end Formulary.Grammar
