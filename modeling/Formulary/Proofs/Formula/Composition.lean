import Formulary.Proofs.Formula.Construction
import Formulary.Proofs.Grammar.Infix
import Formulary.Proofs.Token.Pieces

/-!
# Formulas in formulas

Two formulas with an operator between them are a formula, and so is one in parentheses (`Formula.operate`,
`Formula.group`): the grammar derives both. What these are made of is put side by side, the tokens, the
canonical texts and the variables.

For texts this needs an argument, since what is written behind a text can change its last token: `1e` is
scanned as two tokens, and `1e+5` as one. A text that is a formula has no such token at its end. More
generally, whatever the blanks are between accepted tokens, they are scanned as they are printed
(`Prints.scan_eq`), and a text that is put together from printings prints the tokens of all of them.
-/

set_option autoImplicit false

namespace Formulary

/-! ## Printings of accepted tokens -/

/-- Accepted tokens may be printed with any blanks, since no two values among them stand side by side. -/
theorem WellSpaced.of_accepted {spaced : List (Token × String)}
    (blanks : ∀ p ∈ spaced, ∀ c ∈ p.2.toList, Text.isBlank c = true)
    (accepted : Grammar.rejection? (spaced.map Prod.fst) = none) : WellSpaced spaced := by
  obtain ⟨-, sound, passes⟩ := (Grammar.rejection?_eq_none_iff _).mp accepted
  have apart := passes.isChain
  rw [List.map_map, List.isChain_map] at apart
  refine ⟨?_, blanks, ?_⟩
  · intro p hp
    exact Token.hasShape_of_isSound (sound p.1 (List.mem_map_of_mem hp))
  · refine apart.imp ?_
    intro p q single hp hq
    exact absurd (hq.symm.trans (single hp)) (by decide)

namespace Prints

variable {front front' text text' : String} {spaced spaced' : List (Token × String)}

theorem scan_eq (h : Prints front spaced text)
    (accepted : Grammar.rejection? (spaced.map Prod.fst) = none) :
    scan text = spaced.map Prod.fst := by
  rw [scan, h.chars, scanChars_append_of_isBlank h.lead,
    scanChars_printedChars (.of_accepted h.blanks accepted)]

/-- The blanks in front of the second text are then behind the operator. -/
theorem operate (h : Prints front spaced text) (h' : Prints front' spaced' text') (op : Char) :
    Prints front (spaced ++ (⟨.operator, String.singleton op⟩, front') :: spaced')
      (text ++ String.singleton op ++ text') := by
  refine ⟨?_, h.lead, ?_⟩
  · simp [h.chars, h'.chars]
  · exact List.forall_mem_append.mpr ⟨h.blanks, List.forall_mem_cons.mpr ⟨h'.lead, h'.blanks⟩⟩

theorem group (h : Prints front spaced text) :
    Prints "" ((⟨.openParen, "("⟩, front) :: (spaced ++ [(⟨.closeParen, ")"⟩, "")]))
      ("(" ++ text ++ ")") := by
  refine ⟨?_, by simp, ?_⟩
  · simp [h.chars]
  · refine List.forall_mem_cons.mpr ⟨h.lead, List.forall_mem_append.mpr ⟨h.blanks, ?_⟩⟩
    simp

end Prints

/-! ## Accepted sequences -/

theorem Token.isSound_operator {op : Char} (h : isOperatorChar op = true) :
    isSound ⟨.operator, String.singleton op⟩ = true := by
  simp [isSound, examine, hasShape, isOperatorText, h]

namespace Grammar

variable {ts us : List Token}

theorem accepted_operate (ht : rejection? ts = none) (hu : rejection? us = none) {op : Char}
    (h : Token.isOperatorChar op = true) :
    rejection? (ts ++ ⟨.operator, String.singleton op⟩ :: us) = none := by
  rw [rejection?_eq_none_iff_derives] at ht hu ⊢
  obtain ⟨left, derives⟩ := ht
  obtain ⟨right, derives'⟩ := hu
  constructor
  · refine List.forall_mem_append.mpr ⟨left, List.forall_mem_cons.mpr ⟨?_, right⟩⟩
    exact Token.isSound_operator h
  · rw [List.map_append, List.map_cons]
    exact derives.operate_expr derives'

theorem accepted_group (ht : rejection? ts = none) :
    rejection? (⟨.openParen, "("⟩ :: (ts ++ [⟨.closeParen, ")"⟩])) = none := by
  rw [rejection?_eq_none_iff_derives] at ht ⊢
  obtain ⟨inside, derives⟩ := ht
  constructor
  · refine List.forall_mem_cons.mpr ⟨rfl, List.forall_mem_append.mpr ⟨inside, ?_⟩⟩
    exact List.forall_mem_singleton.mpr rfl
  · rw [List.map_cons, List.map_append]
    exact .term (.single (.group derives))

end Grammar

namespace Formula

/-! ## The formulas -/

/-- Two formulas with an operator between them. -/
def operate (f g : Formula) (op : Char) (h : Token.isOperatorChar op = true) : Formula where
  tokens := f.tokens ++ ⟨.operator, String.singleton op⟩ :: g.tokens
  texts := f.texts ++ String.singleton op :: g.texts
  accepted := Grammar.accepted_operate f.accepted g.accepted h
  texts_eq := by
    have left := mapM_eq_ok_iff.mp f.texts_eq
    have right := mapM_eq_ok_iff.mp g.texts_eq
    exact mapM_eq_ok_iff.mpr (List.rel_append left (.cons rfl right))

/-- A formula in parentheses. -/
def group (f : Formula) : Formula where
  tokens := ⟨.openParen, "("⟩ :: (f.tokens ++ [⟨.closeParen, ")"⟩])
  texts := "(" :: (f.texts ++ [")"])
  accepted := Grammar.accepted_group f.accepted
  texts_eq := by
    have inside := mapM_eq_ok_iff.mp f.texts_eq
    exact mapM_eq_ok_iff.mpr (.cons rfl (List.rel_append inside (.cons rfl .nil)))

variable (f g : Formula) {op : Char} (h : Token.isOperatorChar op = true)

theorem canonical_operate :
    (f.operate g op h).canonical = f.canonical ++ String.singleton op ++ g.canonical := by
  rw [canonical, operate, String.join_append, String.join_cons, ← String.append_assoc]
  rfl

theorem canonical_group : f.group.canonical = "(" ++ f.canonical ++ ")" := by
  rw [canonical, group, String.join_cons, String.join_append, ← String.append_assoc]
  rfl

theorem mem_variableNames_operate {name : String} :
    name ∈ (f.operate g op h).variableNames ↔ name ∈ f.variableNames ∨ name ∈ g.variableNames := by
  simp [mem_variableNames_iff, operate, or_and_right, exists_or]

theorem variableNames_operate :
    (f.operate g op h).variableNames = sortedSet (f.variableNames ++ g.variableNames) := by
  apply variableNames_eq_sortedSet
  intro name
  rw [mem_variableNames_operate, List.mem_append]

theorem variableNames_group : f.group.variableNames = f.variableNames := by
  have same (name : String) : name ∈ f.group.variableNames ↔ name ∈ f.variableNames := by
    simp [mem_variableNames_iff, group]
  -- both are the sorted list of the same set
  exact (variableNames_eq_sortedSet same).trans (variableNames_eq_sortedSet fun _ => .rfl).symm

/-! ## Their texts -/

variable {f g} {a b : String}

theorem scan_operate (ha : f.tokens = scan a) (hb : g.tokens = scan b) :
    scan (a ++ String.singleton op ++ b) = (f.operate g op h).tokens := by
  obtain ⟨front, spaced, prints, tokens⟩ := exists_prints a
  obtain ⟨front', spaced', prints', tokens'⟩ := exists_prints b
  have all : (spaced ++ (⟨.operator, String.singleton op⟩, front') :: spaced').map Prod.fst =
      (f.operate g op h).tokens := by
    rw [List.map_append, List.map_cons, ← tokens, ← tokens', ← ha, ← hb]
    rfl
  rw [(prints.operate prints' op).scan_eq (all ▸ (f.operate g op h).accepted), all]

theorem scan_group (ha : f.tokens = scan a) : scan ("(" ++ a ++ ")") = f.group.tokens := by
  obtain ⟨front, spaced, prints, tokens⟩ := exists_prints a
  have all : (((⟨.openParen, "("⟩, front) :: (spaced ++ [(⟨.closeParen, ")"⟩, "")])).map Prod.fst) =
      f.group.tokens := by
    rw [List.map_cons, List.map_append, ← tokens, ← ha]
    rfl
  rw [prints.group.scan_eq (all ▸ f.group.accepted), all]

theorem exists_parse_of_tokens (text : f.tokens = scan a) (warn : Bool) :
    ∃ ws, parse warn a = .ok (f, ws) := by
  obtain ⟨ws, checked⟩ := exists_precisionWarnings f warn
  exact ⟨ws, parse_eq_ok_iff.mpr ⟨text, checked⟩⟩

/-- With an operator between them, or in parentheses, texts of formulas are those of a formula. Its tokens,
its canonical text and its variables are those of the parts. -/
theorem parse_compositional {warn warn' : Bool} {ws ws' : List Warning}
    (hf : parse warn a = .ok (f, ws)) (hg : parse warn' b = .ok (g, ws')) :
    (∀ op ∈ ['+', '-', '*', '/'], ∃ e : Formula,
      (∀ w, ∃ us, parse w (a ++ String.singleton op ++ b) = .ok (e, us)) ∧
      scan (a ++ String.singleton op ++ b) =
        scan a ++ [⟨.operator, String.singleton op⟩] ++ scan b ∧
      e.canonical = f.canonical ++ String.singleton op ++ g.canonical ∧
      e.variableNames = sortedSet (f.variableNames ++ g.variableNames) ∧
      ∀ v, v ∈ e.variableNames ↔ v ∈ f.variableNames ∨ v ∈ g.variableNames) ∧
    ∃ e : Formula, (∀ w, ∃ us, parse w ("(" ++ a ++ ")") = .ok (e, us)) ∧
      scan ("(" ++ a ++ ")") = [⟨.openParen, "("⟩] ++ scan a ++ [⟨.closeParen, ")"⟩] ∧
      e.canonical = "(" ++ f.canonical ++ ")" ∧
      e.variableNames = f.variableNames := by
  have ha := (parse_eq_ok_iff.mp hf).1
  have hb := (parse_eq_ok_iff.mp hg).1
  constructor
  · intro op four
    have h : Token.isOperatorChar op = true := by
      simpa [Token.isOperatorChar, or_assoc] using four
    have tokens := scan_operate h ha hb
    refine ⟨f.operate g op h, exists_parse_of_tokens tokens.symm, ?_, canonical_operate f g h,
      variableNames_operate f g h, fun _ => mem_variableNames_operate f g h⟩
    rw [tokens, ← ha, ← hb, List.append_assoc]
    rfl
  · have tokens := scan_group ha
    refine ⟨f.group, exists_parse_of_tokens tokens.symm, ?_, canonical_group f,
      variableNames_group f⟩
    rw [tokens, ← ha]
    rfl

/-- An exponent before the sign, and blanks and a point behind it. -/
theorem parse_compositional_exponent :
    ∃ f g ws ws', parse true "2e1" = .ok (f, ws) ∧ parse false " .50(x1)" = .ok (g, ws') ∧
      (∃ e us, parse true ("2e1" ++ String.singleton '-' ++ " .50(x1)") = .ok (e, us) ∧
        e.canonical = "20-0.5(X1)" ∧
        ∀ v, v ∈ e.variableNames ↔ v ∈ f.variableNames ∨ v ∈ g.variableNames) ∧
      ∃ e us, parse true ("(" ++ "2e1" ++ ")") = .ok (e, us) ∧ e.canonical = "(20)" := by
  have first : ((parse true "2e1").toOption.map fun p => p.1.canonical) = some "20" := by
    decide +kernel
  have second : ((parse false " .50(x1)").toOption.map fun p => p.1.canonical) =
      some "0.5(X1)" := by
    decide +kernel
  obtain ⟨f, ws, hf, number⟩ := exists_parse first
  obtain ⟨g, ws', hg, juxtaposed⟩ := exists_parse second
  obtain ⟨operated, e', grouped, -, canonical', -⟩ := parse_compositional hf hg
  obtain ⟨e, parsed, -, canonical, -, names⟩ := operated '-' (by decide)
  obtain ⟨us, parsed⟩ := parsed true
  obtain ⟨us', grouped⟩ := grouped true
  refine ⟨f, g, ws, ws', hf, hg, ⟨e, us, parsed, ?_, names⟩, e', us', grouped, ?_⟩
  · rw [canonical, number, juxtaposed]
    rfl
  · rw [canonical', number]
    rfl

end Formula

end Formulary
