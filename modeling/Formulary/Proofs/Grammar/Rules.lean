import Formulary.Proofs.Grammar.Detection
import Mathlib.Data.Nat.Find

/-!
# The rules without the pass

The pass carries the kind before and a number of open parentheses along, and it stops at the first token
that breaks a rule. Here the rules are said of an index in the whole sequence: they look at the token there,
at the one in front of it, and they count the parentheses that stand before it (`Rule.Broken`). No rule asks
how the pass got there.

While no rule has been broken, the pass is at the index with what the sequence shows there
(`walk_of_unbroken`). The counts are differences of natural numbers, and that nothing is lost in them is the
one invariant: before a rule is broken, no more parentheses are closed than opened (`closed_le_opened`).
What is reported is therefore the first rule broken at the least index where any is (`rejection?_cases`).
-/

set_option autoImplicit false

namespace Formulary

/-- The token is a number whose double is not finite. -/
def Token.Overflows (t : Token) : Prop :=
  t.kind = .number ∧ (Binary64.read t.text).map Binary64.isFinite = .ok false

instance (t : Token) : Decidable t.Overflows :=
  inferInstanceAs (Decidable (_ ∧ _))

/-- A token that is not sound does not fit its kind or is too large. -/
theorem Token.isSound_eq_false_iff (t : Token) :
    t.isSound = false ↔ t.hasShape = false ∨ t.Overflows := by
  rw [← Bool.not_eq_true, isSound_iff]
  constructor
  · intro unsound
    by_cases shape : t.hasShape = true
    · right
      by_contra bounded
      apply unsound
      refine ⟨shape, fun number => ?_⟩
      obtain ⟨l, wf, text⟩ := exists_literal number shape
      have read := Binary64.read_chars wf
      rw [← text] at read
      refine ⟨_, read, ?_⟩
      rw [← Bool.not_eq_false]
      intro infinite
      exact bounded ⟨number, by rw [read, Except.map, infinite]⟩
    · exact .inl (Bool.not_eq_true _ ▸ shape)
  · rintro (shape | ⟨number, infinite⟩) ⟨shape', found⟩
    · exact absurd shape' (by simp [shape])
    · obtain ⟨v, read, finite⟩ := found number
      rw [read, Except.map, finite] at infinite
      exact absurd (Except.ok.inj infinite) (by simp)

namespace Grammar

variable {ts : List Token} {p : Nat}

/-! ## What a sequence shows at an index -/

/-- The kind of the token at an index. -/
def kindAt (ts : List Token) (p : Nat) : Option Token.Kind :=
  ts[p]?.map Token.kind

/-- The kind of the token in front of an index. -/
def kindBefore (ts : List Token) : Nat → Option Token.Kind
  | 0 => none
  | p + 1 => kindAt ts p

/-- The number of opening parentheses. -/
def opened (ts : List Token) : Nat :=
  ts.countP (·.kind == .openParen)

/-- The number of closing parentheses. -/
def closed (ts : List Token) : Nat :=
  ts.countP (·.kind == .closeParen)

/-! ## The rules -/

/-- The rules about a token. -/
inductive Rule
  | sound
  | start
  | lastOperator
  /-- A parenthesis opened by the last token is never closed. -/
  | lastParen
  /-- A closing parenthesis has one to close. -/
  | closesNothing
  | operators
  | values
  | afterOpenParen
  | beforeCloseParen
deriving DecidableEq, Repr

namespace Rule

/-- The rules in the order in which they are tried. -/
def all : List Rule :=
  [.sound, .start, .lastOperator, .lastParen, .closesNothing, .operators, .values, .afterOpenParen,
    .beforeCloseParen]

/-- What is reported when the rule is broken. -/
def fault : Rule → Fault
  | .sound => .invalidToken
  | .start => .invalidStart
  | .lastOperator => .invalidEnd
  | .lastParen | .closesNothing => .unbalancedParens
  | .operators => .consecutiveOperators
  | .values => .missingOperator
  | .afterOpenParen => .invalidAfterOpenParen
  | .beforeCloseParen => .invalidBeforeCloseParen

/-- The token at the index `p` breaks the rule. -/
def Broken (ts : List Token) (p : Nat) : Rule → Prop
  | .sound => ∃ t ∈ ts[p]?, t.hasShape = false ∨ t.Overflows
  | .start => p = 0 ∧ (kindAt ts p = some .operator ∨ kindAt ts p = some .closeParen)
  | .lastOperator => p + 1 = ts.length ∧ kindAt ts p = some .operator
  | .lastParen => p + 1 = ts.length ∧ kindAt ts p = some .openParen
  | .closesNothing => kindAt ts p = some .closeParen ∧ closed (ts.take p) = opened (ts.take p)
  | .operators => kindBefore ts p = some .operator ∧ kindAt ts p = some .operator
  | .values => (∃ k ∈ kindBefore ts p, k.isValue = true) ∧ ∃ k ∈ kindAt ts p, k.isValue = true
  | .afterOpenParen =>
    kindBefore ts p = some .openParen ∧
      (kindAt ts p = some .operator ∨ kindAt ts p = some .closeParen)
  | .beforeCloseParen => kindBefore ts p = some .operator ∧ kindAt ts p = some .closeParen

instance (ts : List Token) (p : Nat) : (rule : Rule) → Decidable (rule.Broken ts p)
  | .sound => inferInstanceAs (Decidable (∃ t ∈ ts[p]?, t.hasShape = false ∨ t.Overflows))
  | .values =>
    inferInstanceAs (Decidable ((∃ k ∈ kindBefore ts p, k.isValue = true) ∧
      ∃ k ∈ kindAt ts p, k.isValue = true))
  | .start | .lastOperator | .lastParen | .closesNothing | .operators | .afterOpenParen
  | .beforeCloseParen => inferInstanceAs (Decidable (_ ∧ _))

end Rule

/-- Some rule is broken at the index. -/
def Fires (ts : List Token) (p : Nat) : Prop :=
  ∃ rule : Rule, rule.Broken ts p

/-- The first rule that is broken at the index. -/
def firstBroken? (ts : List Token) (p : Nat) : Option Rule :=
  Rule.all.find? fun rule => decide (rule.Broken ts p)

theorem firstBroken?_eq_none_iff : firstBroken? ts p = none ↔ ¬ Fires ts p := by
  rw [firstBroken?, List.find?_eq_none]
  constructor
  · rintro free ⟨rule, broken⟩
    have listed : rule ∈ Rule.all := by cases rule <;> decide
    exact free rule listed (decide_eq_true broken)
  · intro free rule _ broken
    exact free ⟨rule, of_decide_eq_true broken⟩

instance (ts : List Token) (p : Nat) : Decidable (Fires ts p) :=
  decidable_of_iff (firstBroken? ts p ≠ none) (by rw [ne_eq, firstBroken?_eq_none_iff, not_not])

theorem broken_of_firstBroken {rule : Rule} (h : firstBroken? ts p = some rule) :
    rule.Broken ts p := by
  rw [firstBroken?, List.find?_eq_some_iff_append] at h
  exact of_decide_eq_true h.1

theorem exists_firstBroken (h : Fires ts p) :
    ∃ t rule, ts[p]? = some t ∧ firstBroken? ts p = some rule := by
  obtain ⟨rule, first⟩ := Option.ne_none_iff_exists'.mp fun none_broken =>
    firstBroken?_eq_none_iff.mp none_broken h
  cases token : ts[p]? with
  | some t => exact ⟨t, rule, rfl, first⟩
  | none =>
    obtain ⟨rule', broken⟩ := h
    -- every rule is about a token
    cases rule' <;> simp [Rule.Broken, kindAt, token] at broken

/-! ## One token -/

/-- What the pass would have to see at an index. -/
def placeAt (ts : List Token) (p : Nat) : Place where
  before := kindBefore ts p
  depth := opened (ts.take p) - closed (ts.take p)
  isLast := decide (p + 1 = ts.length)

/-- What a rule asks of a token at a place. -/
def Place.forbids (p : Place) (t : Token) : Rule → Bool
  | .sound => !t.isSound
  | .start => p.before == none && needsLeft t.kind
  | .lastOperator => p.isLast && t.kind == .operator
  | .lastParen => p.isLast && t.kind == .openParen
  | .closesNothing => t.kind == .closeParen && p.depth == 0
  | .operators => p.before == some .operator && t.kind == .operator
  | .values => p.before.any Token.Kind.isValue && t.kind.isValue
  | .afterOpenParen => p.before == some .openParen && needsLeft t.kind
  | .beforeCloseParen => t.kind == .closeParen && p.before == some .operator

theorem map_find?_cons {α β : Type} (f : α → β) (q : α → Bool) (a : α) (as : List α) :
    ((a :: as).find? q).map f = if q a then some (f a) else (as.find? q).map f := by
  rw [List.find?_cons]
  cases q a with
  | true => rfl
  | false => rfl

theorem fault?_eq_find? (p : Place) (t : Token) :
    p.fault? t = (Rule.all.find? (p.forbids t)).map Rule.fault := by
  simp only [Rule.all, map_find?_cons]
  rfl

theorem kindBefore_eq_none_iff (inside : p < ts.length) : kindBefore ts p = none ↔ p = 0 := by
  cases p with
  | zero => simp [kindBefore]
  | succ p => simp [kindBefore, kindAt, Nat.lt_of_succ_lt inside]

theorem needsLeft_iff (k : Token.Kind) : needsLeft k = true ↔ k = .operator ∨ k = .closeParen := by
  simp [needsLeft]

/-- Where no more parentheses are closed than opened, a rule about the index is a rule about the place. -/
theorem forbids_placeAt_iff {t : Token} (token : ts[p]? = some t)
    (le : closed (ts.take p) ≤ opened (ts.take p)) (rule : Rule) :
    (placeAt ts p).forbids t rule = true ↔ rule.Broken ts p := by
  have kind : kindAt ts p = some t.kind := by rw [kindAt, token, Option.map_some]
  have start := kindBefore_eq_none_iff (List.getElem?_eq_some_iff.mp token).1
  cases rule with
  | sound => simp [Place.forbids, Rule.Broken, token, t.isSound_eq_false_iff]
  | start => simp [Place.forbids, Rule.Broken, placeAt, kind, needsLeft_iff, start]
  | values => simp [Place.forbids, Rule.Broken, placeAt, kind, Option.any_eq_true]
  | closesNothing =>
    have none_open : opened (ts.take p) - closed (ts.take p) = 0 ↔
        closed (ts.take p) = opened (ts.take p) := by
      omega
    simp [Place.forbids, Rule.Broken, placeAt, kind, none_open]
  | lastOperator | lastParen | operators | afterOpenParen =>
    simp [Place.forbids, Rule.Broken, placeAt, kind, needsLeft_iff]
  | beforeCloseParen => simp [Place.forbids, Rule.Broken, placeAt, kind, and_comm]

theorem fault?_placeAt {t : Token} (token : ts[p]? = some t)
    (le : closed (ts.take p) ≤ opened (ts.take p)) :
    (placeAt ts p).fault? t = (firstBroken? ts p).map Rule.fault := by
  have same : (placeAt ts p).forbids t = fun rule => decide (rule.Broken ts p) := by
    funext rule
    rw [Bool.eq_iff_iff, forbids_placeAt_iff token le, decide_eq_true_iff]
  rw [fault?_eq_find?, same, firstBroken?]

/-! ## All tokens -/

theorem take_succ_of_getElem? {t : Token} (token : ts[p]? = some t) :
    ts.take (p + 1) = ts.take p ++ [t] := by
  rw [List.take_add_one, token, Option.toList_some]

theorem opened_take_succ {t : Token} (token : ts[p]? = some t) :
    opened (ts.take (p + 1)) = opened (ts.take p) + if t.kind = .openParen then 1 else 0 := by
  rw [take_succ_of_getElem? token, opened, List.countP_append, List.countP_singleton, ← opened]
  simp only [beq_iff_eq]

theorem closed_take_succ {t : Token} (token : ts[p]? = some t) :
    closed (ts.take (p + 1)) = closed (ts.take p) + if t.kind = .closeParen then 1 else 0 := by
  rw [take_succ_of_getElem? token, closed, List.countP_append, List.countP_singleton, ← closed]
  simp only [beq_iff_eq]

/-- While no rule is broken, no more parentheses are closed than opened. -/
theorem closed_le_opened (free : ∀ q < p, ¬ Fires ts q) :
    closed (ts.take p) ≤ opened (ts.take p) := by
  induction p with
  | zero => simp [closed]
  | succ p ih =>
    have before := ih fun q hq => free q (Nat.lt_succ_of_lt hq)
    cases token : ts[p]? with
    | none =>
      have outside := List.getElem?_eq_none_iff.mp token
      rw [List.take_of_length_le outside] at before
      rwa [List.take_of_length_le (Nat.le_succ_of_le outside)]
    | some t =>
      rw [opened_take_succ token, closed_take_succ token]
      by_cases paren : t.kind = .closeParen
      · -- the parenthesis closes something, or a rule would be broken
        have unequal : closed (ts.take p) ≠ opened (ts.take p) := by
          intro same
          refine free p (Nat.lt_succ_self p) ⟨.closesNothing, ?_, same⟩
          rw [kindAt, token, Option.map_some, paren]
        rw [if_pos paren]
        omega
      · rw [if_neg paren]
        omega

theorem closed_le_opened_of_unbroken (free : ∀ q, ¬ Fires ts q) : closed ts ≤ opened ts := by
  have le : closed (ts.take ts.length) ≤ opened (ts.take ts.length) :=
    closed_le_opened fun q _ => free q
  rwa [List.take_length] at le

/-- From one index to the next, what the pass knows changes as it does for one token. -/
theorem placeAt_succ {t : Token} (token : ts[p]? = some t)
    (le : closed (ts.take p) ≤ opened (ts.take p)) :
    (placeAt ts (p + 1)).before = some t.kind ∧
      (placeAt ts (p + 1)).depth = depthAfter (placeAt ts p).depth t.kind := by
  have kind : kindAt ts p = some t.kind := by rw [kindAt, token, Option.map_some]
  refine ⟨kind, ?_⟩
  simp only [placeAt]
  rw [opened_take_succ token, closed_take_succ token]
  cases h : t.kind with
  | openParen | closeParen =>
    simp only [depthAfter, reduceCtorEq, if_true, if_false]
    omega
  | number | var | operator | unrecognized => simp [depthAfter]

theorem isLast_placeAt (inside : p < ts.length) :
    (placeAt ts p).isLast = (ts.drop (p + 1)).isEmpty := by
  rw [Bool.eq_iff_iff, List.isEmpty_iff, List.drop_eq_nil_iff]
  simp only [placeAt, decide_eq_true_iff]
  omega

/-- While no rule is broken, the pass is at the index and knows what the sequence shows there. -/
theorem walk_of_unbroken (inside : p ≤ ts.length) (free : ∀ q < p, ¬ Fires ts q) :
    walk none 0 0 ts = walk (placeAt ts p).before (placeAt ts p).depth p (ts.drop p) := by
  induction p with
  | zero => simp [placeAt, kindBefore, opened]
  | succ p ih =>
    have earlier : ∀ q < p, ¬ Fires ts q := fun q hq => free q (Nat.lt_succ_of_lt hq)
    have token : ts[p]? = some ts[p] := List.getElem?_eq_getElem inside
    have le := closed_le_opened earlier
    obtain ⟨before, depth⟩ := placeAt_succ token le
    have unbroken : (placeAt ts p).fault? ts[p] = none := by
      rw [fault?_placeAt token le, firstBroken?_eq_none_iff.mpr (free p (Nat.lt_succ_self p)),
        Option.map_none]
    rw [ih (Nat.le_of_succ_le inside) earlier, List.drop_eq_getElem_cons inside, before, depth]
    exact walk_cons_of_free (by rw [← isLast_placeAt inside]; exact unbroken) p

/-- The least index where a rule is broken is reported, with the first rule that is broken there. -/
theorem rejection?_of_first {t : Token} {rule : Rule} (token : ts[p]? = some t)
    (broken : firstBroken? ts p = some rule) (free : ∀ q < p, ¬ Fires ts q) :
    rejection? ts = some ⟨rule.fault, some t, some (p : Int)⟩ := by
  obtain ⟨inside, rfl⟩ := List.getElem?_eq_some_iff.mp token
  have fault : (placeAt ts p).fault? ts[p] = some rule.fault := by
    rw [fault?_placeAt token (closed_le_opened free), broken, Option.map_some]
  rw [rejection?_of_ne_nil (List.ne_nil_of_length_pos (Nat.zero_lt_of_lt inside)),
    walk_of_unbroken (Nat.le_of_lt inside) free, List.drop_eq_getElem_cons inside]
  exact walk_cons_of_fault (by rw [← isLast_placeAt inside]; exact fault) p

/-- If no rule is broken anywhere, only parentheses that stay open can be reported. -/
theorem rejection?_of_unbroken (hne : ts ≠ []) (free : ∀ q, ¬ Fires ts q) :
    rejection? ts =
      if closed ts < opened ts then some ⟨.unbalancedParens, none, none⟩ else none := by
  have le := closed_le_opened_of_unbroken free
  rw [rejection?_of_ne_nil hne, walk_of_unbroken (Nat.le_refl _) fun q _ => free q, List.drop_length,
    walk]
  simp only [placeAt, List.take_length]
  by_cases more : closed ts < opened ts
  · rw [if_pos more, if_neg (by omega)]
  · rw [if_neg more, if_pos (by omega)]

/-- What is reported of a sequence, by the rules alone. -/
theorem rejection?_cases (hne : ts ≠ []) :
    (∃ p t rule, ts[p]? = some t ∧ firstBroken? ts p = some rule ∧ (∀ q < p, ¬ Fires ts q) ∧
      rejection? ts = some ⟨rule.fault, some t, some (p : Int)⟩) ∨
    ((∀ q, ¬ Fires ts q) ∧ rejection? ts =
      if closed ts < opened ts then some ⟨.unbalancedParens, none, none⟩ else none) := by
  by_cases fires : ∃ p, Fires ts p
  · obtain ⟨t, rule, token, broken⟩ := exists_firstBroken (Nat.find_spec fires)
    have free : ∀ q < Nat.find fires, ¬ Fires ts q := fun q hq => Nat.find_min fires hq
    exact .inl ⟨Nat.find fires, t, rule, token, broken, free, rejection?_of_first token broken free⟩
  · have free : ∀ q, ¬ Fires ts q := not_exists.mp fires
    exact .inr ⟨free, rejection?_of_unbroken hne free⟩

/-- A sequence is rejected by a rule, or for parentheses that stay open. -/
theorem cases_of_rejection? {r : Rejection} (hne : ts ≠ []) (rejected : rejection? ts = some r) :
    (∃ p t rule, ts[p]? = some t ∧ firstBroken? ts p = some rule ∧ (∀ q < p, ¬ Fires ts q) ∧
      r = ⟨rule.fault, some t, some (p : Int)⟩) ∨
    r = ⟨.unbalancedParens, none, none⟩ := by
  rcases rejection?_cases hne with ⟨p, t, rule, token, broken, free, told⟩ | ⟨-, told⟩
  · exact .inl ⟨p, t, rule, token, broken, free, Option.some.inj (rejected.symm.trans told)⟩
  · rw [told] at rejected
    split at rejected
    · exact .inr (Option.some.inj rejected).symm
    · contradiction

/-- A rejection with a position tells the first rule that is broken there. -/
theorem exists_rule_of_position {r : Rejection} (hne : ts ≠ []) (rejected : rejection? ts = some r)
    (position : r.position = some (p : Int)) :
    ∃ t rule, ts[p]? = some t ∧ firstBroken? ts p = some rule ∧ (∀ q < p, ¬ Fires ts q) ∧
      r = ⟨rule.fault, some t, some (p : Int)⟩ := by
  rcases cases_of_rejection? hne rejected with ⟨p', t, rule, token, broken, free, rfl⟩ | rfl
  · obtain rfl : p' = p := Int.ofNat.inj (Option.some.inj position)
    exact ⟨t, rule, token, broken, free, rfl⟩
  · contradiction

theorem Rule.eq_sound_of_fault {rule : Rule} (h : rule.fault = .invalidToken) : rule = .sound := by
  cases rule with
  | sound => rfl
  | _ => exact absurd h (by decide)

theorem Rule.fault_ne_emptyFormula (rule : Rule) : rule.fault ≠ .emptyFormula := by
  cases rule
  all_goals decide

/-- A token is called invalid for its own sake. -/
theorem exists_unsound {r : Rejection} (rejected : rejection? ts = some r)
    (invalid : r.fault = .invalidToken) :
    ∃ (p : Nat) (t : Token), ts[p]? = some t ∧ r.token = some t ∧ r.position = some (p : Int) ∧
      (t.hasShape = false ∨ t.Overflows) := by
  by_cases hne : ts = []
  · subst hne
    obtain rfl := Option.some.inj rejected
    exact absurd invalid (by decide)
  rcases cases_of_rejection? hne rejected with ⟨p, t, rule, token, first, -, rfl⟩ | rfl
  · obtain rfl := Rule.eq_sound_of_fault invalid
    obtain ⟨t', token', broken⟩ := broken_of_firstBroken first
    obtain rfl := Option.some.inj (token.symm.trans token')
    exact ⟨p, t, token, rfl, rfl, broken⟩
  · exact absurd invalid (by decide)

/-- Only a sequence of no tokens is called empty. -/
theorem diagnose_eq_emptyFormula_iff : diagnose ts = some .emptyFormula ↔ ts = [] := by
  constructor
  · intro empty
    obtain ⟨r, rejected, fault⟩ := Option.map_eq_some_iff.mp empty
    by_contra hne
    rcases cases_of_rejection? hne rejected with ⟨p, t, rule, -, -, -, rfl⟩ | rfl
    · exact rule.fault_ne_emptyFormula fault
    · exact absurd fault (by decide)
  · rintro rfl
    rfl

theorem closed_le_opened_of_accepted (accepted : Accepted ts) : closed ts ≤ opened ts := by
  rw [accepted_iff] at accepted
  have hne := ((rejection?_eq_none_iff ts).mp accepted).1
  rcases rejection?_cases hne with ⟨p, t, rule, -, -, -, told⟩ | ⟨free, -⟩
  · exact absurd (told.symm.trans accepted) (Option.some_ne_none _)
  · exact closed_le_opened_of_unbroken free

/-- A sequence is rejected at an index exactly when this is the least one where a rule is broken, and what
is reported is the first such rule, with the token. If no rule is broken anywhere, the sequence is rejected
as a whole when more parentheses are opened than closed, and is accepted otherwise. No beginning that breaks
no rule, and no beginning that is accepted, closes more than it opens. -/
theorem first_broken_rule {ts : List Token} (hne : ts ≠ []) :
    (∀ p : Nat, (∃ r, validate ts = .error r ∧ r.position = some (p : Int)) ↔
      Fires ts p ∧ ∀ q < p, ¬ Fires ts q) ∧
    (∀ (p : Nat) (r : Rejection), validate ts = .error r → r.position = some (p : Int) →
      ∃ t rule, ts[p]? = some t ∧ firstBroken? ts p = some rule ∧
        r = ⟨rule.fault, some t, some (p : Int)⟩) ∧
    ((∀ p, ¬ Fires ts p) → validate ts =
      if closed ts < opened ts then .error ⟨.unbalancedParens, none, none⟩ else .ok ts) ∧
    ∀ n, (∀ p < n, ¬ Fires ts p) ∨ Accepted (ts.take n) →
      closed (ts.take n) ≤ opened (ts.take n) := by
  refine ⟨fun p => ⟨?_, ?_⟩, ?_, ?_, ?_⟩
  · rintro ⟨r, rejected, position⟩
    rw [validate_eq_error_iff] at rejected
    obtain ⟨t, rule, token, broken, free, -⟩ := exists_rule_of_position hne rejected position
    exact ⟨⟨rule, broken_of_firstBroken broken⟩, free⟩
  · rintro ⟨fires, free⟩
    obtain ⟨t, rule, token, broken⟩ := exists_firstBroken fires
    exact ⟨_, (validate_eq_error_iff ts _).mpr (rejection?_of_first token broken free), rfl⟩
  · intro p r rejected position
    rw [validate_eq_error_iff] at rejected
    obtain ⟨t, rule, token, broken, -, told⟩ := exists_rule_of_position hne rejected position
    exact ⟨t, rule, token, broken, told⟩
  · intro free
    have told := rejection?_of_unbroken hne free
    split at told
    · next more => rw [if_pos more, validate_eq_error_iff, told]
    · next even => rw [if_neg even, validate_eq_ok_iff]; exact ⟨told, rfl⟩
  · rintro n (free | accepted)
    · exact closed_le_opened free
    · exact closed_le_opened_of_accepted accepted

/-- The last operator of `(2+*` breaks two rules, and the one about the end comes before the one about two
operators in a row. -/
theorem first_broken_rule_at_end :
    scan "(2+*" ≠ [] ∧
      Rule.Broken (scan "(2+*") 3 .lastOperator ∧ Rule.Broken (scan "(2+*") 3 .operators ∧
      (∀ q < 3, ¬ Fires (scan "(2+*") q) ∧
      validate (scan "(2+*") = .error ⟨.invalidEnd, some ⟨.operator, "*"⟩, some 3⟩ := by
  have some_token : scan "(2+*" ≠ [] := by decide +kernel
  have both : Rule.Broken (scan "(2+*") 3 .lastOperator ∧
      Rule.Broken (scan "(2+*") 3 .operators := by
    decide +kernel
  have free : ∀ q < 3, ¬ Fires (scan "(2+*") q := by decide +kernel
  have token : (scan "(2+*")[3]? = some ⟨.operator, "*"⟩ := by decide +kernel
  have first : firstBroken? (scan "(2+*") 3 = some .lastOperator := by decide +kernel
  obtain ⟨least, told, -⟩ := first_broken_rule some_token
  obtain ⟨r, rejected, position⟩ := (least 3).mpr ⟨⟨.lastOperator, both.1⟩, free⟩
  obtain ⟨t, rule, token', first', rfl⟩ := told 3 r rejected position
  obtain rfl := Option.some.inj (token.symm.trans token')
  obtain rfl := Option.some.inj (first.symm.trans first')
  exact ⟨some_token, both.1, both.2, free, rejected⟩

end Grammar

end Formulary
