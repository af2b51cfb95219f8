import Formulary.Formula
import Formulary.Proofs.Grammar.Pass
import Mathlib.Data.List.Forall2

/-!
# Which formulas are built

A formula is built from tokens when they are accepted and their canonical texts exist, and then it is the
only one with these tokens (`Formula.ofTokens_eq_ok_iff`). A text gives the formula of its tokens, with
the warnings about them (`Formula.parse_eq_ok_iff`).

Whether warnings are wanted has no say in that. The replacements that the warnings show are canonical
texts, and a formula has those anyway (`Formula.parse_map_fst`).

The variables of a formula are a set of texts, kept as the one list that is sorted and has no text twice
(`Formula.sortedSet_eq`): the canonical texts of the tokens that are variables
(`Formula.mem_variableNames_iff`).
-/

set_option autoImplicit false

namespace Formulary

theorem mapM_eq_ok_iff {ε α β : Type} {f : α → Except ε β} {as : List α} {bs : List β} :
    as.mapM f = .ok bs ↔ List.Forall₂ (fun a b => f a = .ok b) as bs := by
  induction as generalizing bs with
  | nil =>
    rw [List.mapM_nil, List.forall₂_nil_left_iff]
    exact ⟨fun h => (Except.ok.inj h).symm, fun h => congrArg Except.ok h.symm⟩
  | cons a as ih =>
    rw [List.mapM_cons, List.forall₂_cons_left_iff]
    simp only [← ih]
    cases f a with
    | error e => simp [bind, Except.bind]
    | ok b =>
      cases as.mapM f with
      | error e => simp [bind, Except.bind]
      | ok bs' => simp [bind, Except.bind, pure, Except.pure, eq_comm]

theorem exists_mapM_eq_ok_iff {ε α β : Type} {f : α → Except ε β} {as : List α} :
    (∃ bs, as.mapM f = .ok bs) ↔ ∀ a ∈ as, ∃ b, f a = .ok b := by
  simp only [mapM_eq_ok_iff]
  induction as with
  | nil => exact iff_of_true ⟨[], .nil⟩ nofun
  | cons a as ih =>
    rw [List.forall_mem_cons, ← ih]
    constructor
    · rintro ⟨_, hs⟩
      cases hs with
      | cons h hs => exact ⟨⟨_, h⟩, _, hs⟩
    · rintro ⟨⟨b, h⟩, bs, hs⟩
      exact ⟨b :: bs, .cons h hs⟩

theorem Token.canonical_of_number {t : Token} (number : t.kind = .number) :
    t.canonical = Binary64.normalize t.text := by
  rw [Token.canonical, number]

/-- A number that has a canonical text can be checked: the text is what a warning would show. -/
theorem Token.exists_checkPrecision {t : Token} {replacement : String} (number : t.kind = .number)
    (text : t.canonical = .ok replacement) (warn : Bool) :
    ∃ ws, checkPrecision warn t.text = .ok ws := by
  rw [checkPrecision, ← Token.canonical_of_number number, text]
  split
  · exact ⟨[⟨t.text, replacement⟩], rfl⟩
  · exact ⟨[], rfl⟩

/-- The warnings about tokens are those about each number. -/
theorem precisionWarnings_eq {warn : Bool} {ts : List Token} {each : List (List Warning)}
    (h : List.Forall₂ (fun t ws => checkPrecision warn t.text = .ok ws)
      (ts.filter (·.kind == .number)) each) : precisionWarnings warn ts = .ok each.flatten := by
  rw [precisionWarnings, mapM_eq_ok_iff.mpr h, Except.map]

theorem precisionWarnings_eq_nil {warn : Bool} {ts : List Token}
    (h : ∀ t ∈ ts, t.kind = .number → checkPrecision warn t.text = .ok []) :
    precisionWarnings warn ts = .ok [] := by
  have each : List.Forall₂ (fun t ws => checkPrecision warn t.text = .ok ws)
      (ts.filter (·.kind == .number)) ((ts.filter (·.kind == .number)).map fun _ => []) := by
    refine List.forall₂_map_right_iff.mpr (List.forall₂_same.mpr ?_)
    intro t ht
    obtain ⟨mem, number⟩ := List.mem_filter.mp ht
    exact h t mem (eq_of_beq number)
  rw [precisionWarnings_eq each]
  simp

namespace Formula

theorem ofTokens_eq_ok_iff {tokens : List Token} {f : Formula} :
    ofTokens tokens = .ok f ↔ f.tokens = tokens := by
  constructor
  · intro h
    unfold ofTokens at h
    split at h
    · exact absurd h nofun
    · split at h
      · exact absurd h nofun
      · rw [← Except.ok.inj h]
  · obtain ⟨tokens', texts, accepted, texts_eq⟩ := f
    rintro rfl
    unfold ofTokens
    split
    · next r rejected => exact absurd (rejected.symm.trans accepted) nofun
    · split
      · next e failed => exact absurd (failed.symm.trans texts_eq) nofun
      · next texts' found =>
        obtain rfl := Except.ok.inj (found.symm.trans texts_eq)
        rfl

theorem parse_eq_ok_iff {warn : Bool} {text : String} {f : Formula} {ws : List Warning} :
    parse warn text = .ok (f, ws) ↔
      f.tokens = scan text ∧ precisionWarnings warn f.tokens = .ok ws := by
  rw [← ofTokens_eq_ok_iff]
  unfold parse
  constructor
  · intro h
    split at h
    · exact absurd h nofun
    · next f' made =>
      split at h
      · exact absurd h nofun
      · next ws' checked =>
        obtain ⟨rfl, rfl⟩ := Prod.mk.inj (Except.ok.inj h)
        exact ⟨made, checked⟩
  · rintro ⟨made, checked⟩
    simp only [made, checked]

/-- The warnings about a formula can be given, whether they are wanted or not. -/
theorem exists_precisionWarnings (f : Formula) (warn : Bool) :
    ∃ ws, precisionWarnings warn f.tokens = .ok ws := by
  have texts := exists_mapM_eq_ok_iff.mp ⟨f.texts, f.texts_eq⟩
  have checked : ∀ t ∈ f.tokens.filter (·.kind == .number),
      ∃ ws, checkPrecision warn t.text = .ok ws := by
    intro t ht
    obtain ⟨mem, number⟩ := List.mem_filter.mp ht
    obtain ⟨replacement, text⟩ := texts t mem
    exact Token.exists_checkPrecision (eq_of_beq number) text warn
  obtain ⟨lists, all⟩ := exists_mapM_eq_ok_iff.mpr checked
  exact ⟨lists.flatten, precisionWarnings_eq (mapM_eq_ok_iff.mp all)⟩

/-- The formula that a text writes, or the reason why it writes none, is that of its tokens. -/
theorem parse_map_fst (warn : Bool) (text : String) :
    (parse warn text).map Prod.fst = ofTokens (scan text) := by
  rw [parse]
  cases ofTokens (scan text) with
  | error e => rfl
  | ok f =>
    obtain ⟨ws, checked⟩ := exists_precisionWarnings f warn
    simp only [checked]
    rfl

/-- A canonical text that was computed is that of a formula. -/
theorem exists_parse {warn : Bool} {text c : String}
    (h : ((parse warn text).toOption.map fun p => p.1.canonical) = some c) :
    ∃ f ws, parse warn text = .ok (f, ws) ∧ f.canonical = c := by
  cases hp : parse warn text with
  | error e =>
    rw [hp] at h
    exact absurd h nofun
  | ok p =>
    rw [hp] at h
    exact ⟨p.1, p.2, rfl, Option.some.inj h⟩

/-! ## Sets of texts -/

theorem nodup_eraseDups (texts : List String) : texts.eraseDups.Nodup := by
  induction hn : texts.length using Nat.strongRecOn generalizing texts with
  | ind n ih =>
    cases texts with
    | nil => simp
    | cons a texts =>
      -- the texts behind the first one are filtered, so the induction is on the length
      have shorter := List.length_filter_le (fun b => !b == a) texts
      rw [List.eraseDups_cons, List.nodup_cons]
      refine ⟨by simp [List.mem_eraseDups], ih _ ?_ _ rfl⟩
      rw [← hn, List.length_cons]
      exact Nat.lt_succ_of_le shorter

@[simp] theorem mem_sortedSet {text : String} {texts : List String} :
    text ∈ sortedSet texts ↔ text ∈ texts := by
  rw [sortedSet, List.mem_mergeSort, List.mem_eraseDups]

theorem nodup_sortedSet (texts : List String) : (sortedSet texts).Nodup :=
  (List.mergeSort_perm _ _).nodup_iff.mpr (nodup_eraseDups texts)

theorem pairwise_sortedSet (texts : List String) : (sortedSet texts).Pairwise (· ≤ ·) := by
  have sorted : (sortedSet texts).Pairwise fun a b => decide (a ≤ b) = true := by
    apply List.pairwise_mergeSort
    · intro a b c hab hbc
      exact decide_eq_true (String.le_trans (of_decide_eq_true hab) (of_decide_eq_true hbc))
    · intro a b
      simpa using String.le_total a b
  exact sorted.imp of_decide_eq_true

/-- The list is determined by the set. -/
theorem sortedSet_eq {texts texts' : List String} (same : ∀ t, t ∈ texts ↔ t ∈ texts') :
    sortedSet texts = sortedSet texts' := by
  have members : (sortedSet texts).Perm (sortedSet texts') := by
    rw [List.perm_ext_iff_of_nodup (nodup_sortedSet texts) (nodup_sortedSet texts')]
    intro t
    rw [mem_sortedSet, mem_sortedSet, same]
  refine List.Perm.eq_of_pairwise ?_ (pairwise_sortedSet texts) (pairwise_sortedSet texts') members
  intro a b _ _ hab hba
  exact String.le_antisymm hab hba

/-! ## The parts of a formula -/

theorem isSound_of_mem (f : Formula) : ∀ t ∈ f.tokens, t.isSound = true :=
  ((Grammar.rejection?_eq_none_iff f.tokens).mp f.accepted).2.1

/-- No two values stand side by side. -/
theorem isChain_tokens (f : Formula) :
    f.tokens.IsChain fun a b => a.kind.isValue = true → b.kind.isValue = false :=
  List.isChain_map _ |>.mp ((Grammar.rejection?_eq_none_iff f.tokens).mp f.accepted).2.2.isChain

/-- The variables depend on the kinds and the canonical texts only. -/
theorem variableNames_eq (f : Formula) :
    f.variableNames =
      sortedSet ((((f.tokens.map Token.kind).zip f.texts).filter fun p => p.1 == .var).map
        Prod.snd) := by
  rw [variableNames, List.zip_map_left, List.filter_map, List.map_map]
  rfl

/-- The variables are the canonical texts of the tokens that are variables. -/
theorem mem_variableNames_iff {f : Formula} {name : String} :
    name ∈ f.variableNames ↔ ∃ t ∈ f.tokens, t.kind = .var ∧ t.canonical = .ok name := by
  rw [variableNames, mem_sortedSet]
  have written := mapM_eq_ok_iff.mp f.texts_eq
  generalize f.tokens = ts at written ⊢
  generalize f.texts = texts at written ⊢
  induction written with
  | nil => simp
  | @cons t text ts texts own _ ih =>
    rw [List.zip_cons_cons, List.filter_cons]
    by_cases var : t.kind = .var
    · simp [var, own, ih, eq_comm]
    · simp [var, ih]

/-- The list of the variables is determined by their set. -/
theorem variableNames_eq_sortedSet {f : Formula} {texts : List String}
    (same : ∀ name, name ∈ f.variableNames ↔ name ∈ texts) : f.variableNames = sortedSet texts :=
  sortedSet_eq fun name => mem_sortedSet.symm.trans (same name)

end Formula

end Formulary
