import Formulary.Proofs.Grammar.Pass
import Formulary.Proofs.Number.Reading
import Mathlib.Data.List.Basic

/-!
# The grammar that the pass decides

The pass looks at two neighbouring tokens and counts parentheses; a grammar builds a tree. This file
gives the grammar, `Derives`, and shows that the kinds that pass are the ones it derives
(`passes_iff_derives`).

The grammar is the usual one of terms and factors with a single liberty: two factors may stand side by
side unless both are bare values. Whether the last factor of a term is bare is therefore part of the
name of the nonterminal.

*From the tree to the pass* is an induction on the derivation: what is derived can be read at any place
that wants it, and leaves the depth as it was (`Derives.passes_append`).

*From the pass to the tree* needs an invariant, because the pass meets the parentheses one at a time:
`Viable` says that what has been read is, for each parenthesis still open, a beginning of an expression
at that level. Every allowed kind keeps it (`Viable.step`), and at the end, at depth zero and behind an
operand, the one level left is an expression.
-/

set_option autoImplicit false

namespace Formulary.Grammar

/-- The nonterminals. Terms and factors are told apart by whether the last factor is a bare value. -/
inductive Category
  | expr
  | term (bare : Bool)
  | factor (bare : Bool)

/-- The sequences of kinds that a nonterminal derives. -/
inductive Derives : Category → List Token.Kind → Prop
  | value {k : Token.Kind} (h : k.isValue = true) : Derives (.factor true) [k]
  | group {e : List Token.Kind} (he : Derives .expr e) :
      Derives (.factor false) (.openParen :: (e ++ [.closeParen]))
  | single {bare : Bool} {f : List Token.Kind} (hf : Derives (.factor bare) f) :
      Derives (.term bare) f
  | juxtapose {a b : Bool} {t f : List Token.Kind} (ht : Derives (.term a) t)
      (hf : Derives (.factor b) f) (h : (a && b) = false) : Derives (.term b) (t ++ f)
  | term {bare : Bool} {t : List Token.Kind} (ht : Derives (.term bare) t) : Derives .expr t
  | operate {bare : Bool} {e t : List Token.Kind} (he : Derives .expr e)
      (ht : Derives (.term bare) t) : Derives .expr (e ++ .operator :: t)

/-! ## The ends of what is derived -/

theorem Derives.ne_nil {c : Category} {ks : List Token.Kind} (h : Derives c ks) : ks ≠ [] := by
  induction h with
  | value _ | group _ _ => exact List.cons_ne_nil _ _
  | single _ ih | term _ ih => exact ih
  | juxtapose _ _ _ iht _ => exact List.append_ne_nil_of_left_ne_nil iht _
  | operate _ _ ihe _ => exact List.append_ne_nil_of_left_ne_nil ihe _

/-- Behind anything that is derived no operand is called for. -/
theorem Derives.wantsOperand_getLast? {c : Category} {ks : List Token.Kind} (h : Derives c ks) :
    wantsOperand ks.getLast? = false := by
  induction h with
  | @value k hk =>
    cases k with
    | number | var => rfl
    | operator | openParen | closeParen | unrecognized => exact absurd hk (by decide)
  | @group e _ _ =>
    rw [← List.cons_append, List.getLast?_concat]
    rfl
  | single _ ih | term _ ih => exact ih
  | juxtapose _ hf _ _ ihf => rw [List.getLast?_append_of_ne_nil _ hf.ne_nil, ihf]
  | operate _ ht _ iht =>
    rw [List.getLast?_append_of_ne_nil _ (List.cons_ne_nil _ _), ← List.singleton_append,
      List.getLast?_append_of_ne_nil _ ht.ne_nil, iht]

theorem Derives.isValue_getLast?_factor {bare : Bool} {f : List Token.Kind}
    (h : Derives (.factor bare) f) : f.getLast?.any Token.Kind.isValue = bare := by
  cases h with
  | value hk => simp [hk]
  | @group e _ =>
    rw [← List.cons_append, List.getLast?_concat]
    rfl

theorem Derives.isValue_getLast?_term {bare : Bool} {t : List Token.Kind}
    (h : Derives (.term bare) t) : t.getLast?.any Token.Kind.isValue = bare := by
  cases h with
  | single hf => exact hf.isValue_getLast?_factor
  | juxtapose _ hf _ => rw [List.getLast?_append_of_ne_nil _ hf.ne_nil, hf.isValue_getLast?_factor]

theorem Derives.head?_group {f : List Token.Kind} (h : Derives (.factor false) f) :
    f.head? = some .openParen := by
  cases h with
  | group _ => rfl

/-! ## From the tree to the pass -/

/-- What is derived can be read wherever it does not put a value behind a value. The pass is then where
it was, with the last kind behind it. -/
theorem Derives.passes_append {c : Category} {ks : List Token.Kind} (h : Derives c ks)
    {before : Option Token.Kind} {depth : Nat} {rest : List Token.Kind}
    (fits : before.any Token.Kind.isValue = true → ks.head? = some .openParen)
    (after : Passes ks.getLast? depth rest) : Passes before depth (ks ++ rest) := by
  induction h generalizing before depth rest with
  | @value k hk =>
    have free : before.any Token.Kind.isValue = false := by
      cases hb : before.any Token.Kind.isValue with
      | false => rfl
      | true =>
        have ho := fits hb
        simp only [List.head?_cons, Option.some.injEq] at ho
        subst ho
        exact absurd hk (by decide)
    cases k with
    | number | var => exact ⟨free, after⟩
    | operator | openParen | closeParen | unrecognized => exact absurd hk (by decide)
  | @group e he ih =>
    have closed : Passes e.getLast? (depth + 1) (.closeParen :: rest) := by
      refine ⟨⟨he.wantsOperand_getLast?, Nat.succ_pos depth⟩, ?_⟩
      rw [← List.cons_append, List.getLast?_concat] at after
      exact after
    refine ⟨?_, ?_⟩
    · simp [Place.Allows]
    · have inside : Passes (some .openParen) (depth + 1) (e ++ .closeParen :: rest) :=
        ih (fun hb => absurd hb (by decide)) closed
      simpa [depthAfter, List.append_assoc] using inside
  | single _ ih | term _ ih => exact ih fits after
  | @juxtapose a b t f ht hf hab iht ihf =>
    rw [List.append_assoc]
    rw [List.head?_append_of_ne_nil t ht.ne_nil] at fits
    rw [List.getLast?_append_of_ne_nil _ hf.ne_nil] at after
    refine iht fits (ihf ?_ after)
    -- a value at the end of the term leaves only a group for the factor
    intro hv
    rw [ht.isValue_getLast?_term] at hv
    subst hv
    obtain rfl : b = false := by simpa using hab
    exact hf.head?_group
  | @operate bare e t he ht ihe iht =>
    rw [List.append_assoc, List.cons_append]
    rw [List.head?_append_of_ne_nil e he.ne_nil] at fits
    rw [List.getLast?_append_of_ne_nil _ (List.cons_ne_nil _ _), ← List.singleton_append,
      List.getLast?_append_of_ne_nil _ ht.ne_nil] at after
    refine ihe fits ⟨⟨he.wantsOperand_getLast?, ?_⟩, iht (fun hb => absurd hb (by decide)) after⟩
    simp [ht.ne_nil]

theorem passes_of_derives {ks : List Token.Kind} (h : Derives .expr ks) : Passes none 0 ks := by
  have all : Passes none 0 (ks ++ []) := h.passes_append (fun hb => absurd hb (by decide)) rfl
  rwa [List.append_nil] at all

/-! ## From the pass to the tree -/

/-- What can stand before the last term of an expression. -/
inductive Lead : List Token.Kind → Prop
  | nil : Lead []
  | operate {e : List Token.Kind} (he : Derives .expr e) : Lead (e ++ [.operator])

/-- What has been read since the last parenthesis that is still open, with the last kind read. -/
inductive Level : Option Token.Kind → List Token.Kind → Prop
  | start {before : Option Token.Kind} (h : before = none ∨ before = some .openParen) :
      Level before []
  | operator {e : List Token.Kind} (he : Derives .expr e) : Level (some .operator) (e ++ [.operator])
  | operand {before : Option Token.Kind} {bare : Bool} {l t : List Token.Kind} (hl : Lead l)
      (ht : Derives (.term bare) t) (hb : before = t.getLast?) : Level before (l ++ t)

/-- What has been read in all, level by level. -/
inductive Viable : Option Token.Kind → Nat → List Token.Kind → Prop
  | top {before : Option Token.Kind} {ks : List Token.Kind} (h : Level before ks) :
      Viable before 0 ks
  | inner {outer before : Option Token.Kind} {depth : Nat} {ks ls : List Token.Kind}
      (ho : Viable outer depth ks) (h : Level before ls) :
      Viable before (depth + 1) (ks ++ .openParen :: ls)

theorem Lead.expr {bare : Bool} {l t : List Token.Kind} (hl : Lead l)
    (ht : Derives (.term bare) t) : Derives .expr (l ++ t) := by
  cases hl with
  | nil => exact .term ht
  | operate he =>
    rw [List.append_assoc]
    exact .operate he ht

theorem Level.expr {before : Option Token.Kind} {ks : List Token.Kind} (h : Level before ks)
    (hw : wantsOperand before = false) : Derives .expr ks := by
  cases h with
  | start hs => rcases hs with rfl | rfl <;> exact absurd hw (by decide)
  | operator _ => exact absurd hw (by decide)
  | operand hl ht _ => exact hl.expr ht

/-- A factor continues a level unless it puts a value behind a value. -/
theorem Level.factor {before : Option Token.Kind} {bare : Bool} {ks f : List Token.Kind}
    (h : Level before ks) (hf : Derives (.factor bare) f)
    (fits : bare = true → before.any Token.Kind.isValue = false) : Level f.getLast? (ks ++ f) := by
  cases h with
  | start _ => exact .operand .nil (.single hf) rfl
  | operator he => exact .operand (.operate he) (.single hf) rfl
  | @operand _ a l t hl ht hb =>
    subst hb
    rw [ht.isValue_getLast?_term] at fits
    have hab : (a && bare) = false := by
      cases bare with
      | false => exact Bool.and_false a
      | true => simpa using fits rfl
    rw [List.append_assoc]
    exact .operand hl (.juxtapose ht hf hab) (List.getLast?_append_of_ne_nil t hf.ne_nil).symm

theorem Viable.factor {before : Option Token.Kind} {depth : Nat} {bare : Bool}
    {ks f : List Token.Kind} (h : Viable before depth ks) (hf : Derives (.factor bare) f)
    (fits : bare = true → before.any Token.Kind.isValue = false) :
    Viable f.getLast? depth (ks ++ f) := by
  cases h with
  | top hl => exact .top (hl.factor hf fits)
  | inner ho hl =>
    rw [List.append_assoc, List.cons_append]
    exact .inner ho (hl.factor hf fits)

theorem Viable.operator {before : Option Token.Kind} {depth : Nat} {ks : List Token.Kind}
    (h : Viable before depth ks) (hw : wantsOperand before = false) :
    Viable (some .operator) depth (ks ++ [.operator]) := by
  cases h with
  | top hl => exact .top (.operator (hl.expr hw))
  | inner ho hl =>
    rw [List.append_assoc, List.cons_append]
    exact .inner ho (.operator (hl.expr hw))

/-- One kind that is allowed where it stands. -/
theorem Viable.step {before : Option Token.Kind} {depth : Nat} {isLast : Bool} {k : Token.Kind}
    {ks : List Token.Kind} (h : Viable before depth ks) (hk : k ≠ .unrecognized)
    (ha : Place.Allows ⟨before, depth, isLast⟩ k) :
    Viable (some k) (depthAfter depth k) (ks ++ [k]) := by
  cases k with
  | number => exact h.factor (.value rfl) fun _ => ha
  | var => exact h.factor (.value rfl) fun _ => ha
  | operator => exact h.operator ha.1
  | openParen => exact .inner h (.start (.inr rfl))
  | closeParen =>
    obtain ⟨hw, hd⟩ := ha
    cases h with
    | top _ =>
      -- at depth zero there is nothing to close
      exact absurd hd (Nat.lt_irrefl 0)
    | @inner outer _ depth ks ls ho hl =>
      -- the level that ends is an expression, and with its parentheses a factor of the one outside
      have closed := ho.factor (.group (hl.expr hw)) fun hb => absurd hb (by decide)
      rw [← List.cons_append, List.getLast?_concat, List.cons_append] at closed
      rw [List.append_assoc, List.cons_append]
      exact closed
  | unrecognized => exact absurd rfl hk

/-- A whole pass. The hypothesis on the empty rest is what the rules on the last token come to. -/
theorem Viable.run {before : Option Token.Kind} {depth : Nat} {ks rest : List Token.Kind}
    (h : Viable before depth ks) (hp : Passes before depth rest)
    (known : ∀ k ∈ rest, k ≠ .unrecognized) (ends : rest = [] → wantsOperand before = false) :
    Derives .expr (ks ++ rest) := by
  induction rest generalizing before depth ks with
  | nil =>
    obtain rfl : depth = 0 := hp
    rw [List.append_nil]
    cases h with
    | top hl => exact hl.expr (ends rfl)
  | cons k rest ih =>
    obtain ⟨ha, hrest⟩ := hp
    have hk := known k List.mem_cons_self
    have ends' : rest = [] → wantsOperand (some k) = false := by
      rintro rfl
      exact ha.wantsOperand_of_last
    rw [← List.singleton_append, ← List.append_assoc]
    exact ih (h.step hk ha) hrest (fun l hl => known l (List.mem_cons_of_mem k hl)) ends'

theorem Derives.ne_unrecognized {c : Category} {ks : List Token.Kind} (h : Derives c ks) :
    ∀ k ∈ ks, k ≠ .unrecognized := by
  induction h with
  | value hk =>
    intro l hl
    rw [List.mem_singleton.mp hl]
    rintro rfl
    exact absurd hk (by decide)
  | group _ ih =>
    intro l hl
    rcases List.mem_cons.mp hl with rfl | hl
    · decide
    · rcases List.mem_append.mp hl with hl | hl
      · exact ih l hl
      · rw [List.mem_singleton.mp hl]
        decide
  | single _ ih | term _ ih => exact ih
  | juxtapose _ _ _ iht ihf =>
    intro l hl
    rcases List.mem_append.mp hl with hl | hl
    · exact iht l hl
    · exact ihf l hl
  | operate _ _ ihe iht =>
    intro l hl
    rcases List.mem_append.mp hl with hl | hl
    · exact ihe l hl
    · rcases List.mem_cons.mp hl with rfl | hl
      · decide
      · exact iht l hl

/-- The kinds that pass are the ones that the grammar derives. -/
theorem passes_iff_derives {ks : List Token.Kind} :
    (ks ≠ [] ∧ (∀ k ∈ ks, k ≠ .unrecognized) ∧ Passes none 0 ks) ↔ Derives .expr ks := by
  constructor
  · rintro ⟨hne, known, hp⟩
    exact (Viable.top (.start (.inl rfl))).run hp known fun h => absurd h hne
  · intro h
    exact ⟨h.ne_nil, h.ne_unrecognized, passes_of_derives h⟩

/-- The accepted sequences: sound tokens, in an order that the grammar derives. -/
theorem rejection?_eq_none_iff_derives (ts : List Token) :
    rejection? ts = none ↔
      (∀ t ∈ ts, t.isSound = true) ∧ Derives .expr (ts.map Token.kind) := by
  have known : (∀ t ∈ ts, t.isSound = true) → ∀ k ∈ ts.map Token.kind, k ≠ .unrecognized := by
    intro sound k hk
    obtain ⟨t, ht, rfl⟩ := List.mem_map.mp hk
    intro hu
    have shape := Token.hasShape_of_isSound (sound t ht)
    rw [Token.hasShape, hu] at shape
    contradiction
  rw [rejection?_eq_none_iff, ← passes_iff_derives, ne_eq, ne_eq, List.map_eq_nil_iff]
  constructor
  · rintro ⟨hne, sound, hp⟩
    exact ⟨sound, hne, known sound, hp⟩
  · rintro ⟨sound, hne, _, hp⟩
    exact ⟨hne, sound, hp⟩

end Formulary.Grammar
