import Formulary.Proofs.Formula.Canonical
import Formulary.Proofs.Token.Capitals
import Formulary.Proofs.Token.Pieces

/-!
# Blanks and letter case

How a formula is spaced, and which case its letters have, makes no difference to it. The two halves are of
a different kind. The scanner does not care about the case of letters, in any text, and so the grammar
finds the same fault at the same place (`Grammar.rejection?_map_inCapitals`). Blanks do matter to the
scanner, which reads `x 1` otherwise than `x1`; but the grammar lets no two values stand side by side, and
then there is nothing that a blank would have to keep apart.
-/

set_option autoImplicit false

namespace Formulary

/-- The rejection of the same tokens in capitals. -/
def Rejection.inCapitals (r : Rejection) : Rejection :=
  { r with token := r.token.map Token.inCapitals }

namespace Grammar

/-! ## The grammar does not see the case of letters -/

theorem fault?_inCapitals (p : Place) (t : Token) : p.fault? t.inCapitals = p.fault? t := by
  rw [Place.fault?, Token.isSound_inCapitals]
  rfl

theorem walk_map_inCapitals (before : Option Token.Kind) (depth position : Nat)
    (ts : List Token) :
    walk before depth position (ts.map Token.inCapitals) =
      (walk before depth position ts).map Rejection.inCapitals := by
  induction ts generalizing before depth position with
  | nil =>
    rw [List.map_nil, walk]
    split
    · rfl
    · rfl
  | cons t rest ih =>
    rw [List.map_cons, walk, walk, fault?_inCapitals, List.isEmpty_map]
    split
    · rfl
    · exact ih _ _ _

theorem rejection?_map_inCapitals (ts : List Token) :
    rejection? (ts.map Token.inCapitals) = (rejection? ts).map Rejection.inCapitals := by
  rw [rejection?, rejection?, List.isEmpty_map]
  split
  · rfl
  · exact walk_map_inCapitals none 0 0 ts

/-- Tokens in capitals are validated or rejected like the tokens themselves. -/
theorem validate_map_inCapitals (ts : List Token) :
    (∀ us, validate ts = .ok us → validate (ts.map Token.inCapitals) = .ok (us.map Token.inCapitals)) ∧
      ∀ r, validate ts = .error r → validate (ts.map Token.inCapitals) = .error r.inCapitals := by
  rw [validate, validate, rejection?_map_inCapitals]
  cases rejection? ts with
  | none =>
    refine ⟨fun us h => ?_, nofun⟩
    rw [← Except.ok.inj h]
    rfl
  | some r =>
    refine ⟨nofun, fun r' h => ?_⟩
    rw [← Except.error.inj h]
    rfl

end Grammar

namespace Formula

/-! ## Formulas with the same tokens in capitals -/

theorem mapM_canonical_inCapitals {ts : List Token} (h : ∀ t ∈ ts, t.isSound = true) :
    (ts.map Token.inCapitals).mapM Token.canonical = ts.mapM Token.canonical := by
  induction ts with
  | nil => rfl
  | cons t ts ih =>
    obtain ⟨ht, hts⟩ := List.forall_mem_cons.mp h
    rw [List.map_cons, List.mapM_cons, List.mapM_cons, Token.canonical_inCapitals ht, ih hts]

theorem eq_of_inCapitals_eq {f g : Formula}
    (h : f.tokens.map Token.inCapitals = g.tokens.map Token.inCapitals) :
    f.canonical = g.canonical ∧ f.variableNames = g.variableNames ∧ (f == g) = true := by
  have texts : f.texts = g.texts := by
    have left := mapM_canonical_inCapitals f.isSound_of_mem
    have right := mapM_canonical_inCapitals g.isSound_of_mem
    rw [h, right, f.texts_eq, g.texts_eq] at left
    exact (Except.ok.inj left).symm
  have kinds : f.tokens.map Token.kind = g.tokens.map Token.kind := by
    have same := congrArg (List.map Token.kind) h
    rwa [List.map_map, List.map_map] at same
  have canonical : f.canonical = g.canonical := by rw [Formula.canonical, texts, Formula.canonical]
  refine ⟨canonical, ?_, (beq_iff_canonical_eq f g).mpr canonical⟩
  rw [variableNames_eq, variableNames_eq, kinds, texts]

/-! ## Texts that differ in blanks and case only -/

theorem scan_withoutBlanks_of_parse {warn : Bool} {text : String} {f : Formula} {ws : List Warning}
    (h : parse warn text = .ok (f, ws)) : scan (Text.withoutBlanks text) = scan text := by
  have tokens := (parse_eq_ok_iff.mp h).1
  have sound := f.isSound_of_mem
  have apart := f.isChain_tokens
  rw [tokens] at sound apart
  exact scan_withoutBlanks (fun t ht => Token.hasShape_of_isSound (sound t ht)) apart

theorem parse_withoutBlanks {warn : Bool} {text : String} {f : Formula} {ws : List Warning}
    (h : parse warn text = .ok (f, ws)) : parse warn (Text.withoutBlanks text) = .ok (f, ws) := by
  rw [parse_eq_ok_iff, scan_withoutBlanks_of_parse h]
  exact parse_eq_ok_iff.mp h

/-- Spacing and the case of letters make no difference. A formula without its blanks is the same formula,
with the same tokens. Any text in capitals has its tokens in capitals, and they are validated or rejected
as those of the text are, for the same reason at the same place. Two formulas whose texts are the same up
to blanks and case have one canonical text and the same variables, and are equal. -/
theorem blanks_and_case :
    (∀ warn text f ws, parse warn text = .ok (f, ws) →
      scan (Text.withoutBlanks text) = scan text ∧
        parse warn (Text.withoutBlanks text) = .ok (f, ws)) ∧
    (∀ text, scan (Token.capitals text) = (scan text).map Token.inCapitals ∧
      (∀ us, Grammar.validate (scan text) = .ok us →
        Grammar.validate (scan (Token.capitals text)) = .ok (us.map Token.inCapitals)) ∧
      ∀ r, Grammar.validate (scan text) = .error r →
        Grammar.validate (scan (Token.capitals text)) = .error r.inCapitals) ∧
    ∀ warn warn' a b f g ws ws', parse warn a = .ok (f, ws) → parse warn' b = .ok (g, ws') →
      Token.capitals (Text.withoutBlanks a) = Token.capitals (Text.withoutBlanks b) →
        f.canonical = g.canonical ∧ f.variableNames = g.variableNames ∧ (f == g) = true := by
  refine ⟨fun warn text f ws h => ⟨scan_withoutBlanks_of_parse h, parse_withoutBlanks h⟩,
    fun text => ⟨scan_capitals text, ?_⟩, fun warn warn' a b f g ws ws' hf hg same => ?_⟩
  · rw [scan_capitals]
    exact Grammar.validate_map_inCapitals (scan text)
  · have tokens := congrArg scan same
    rw [scan_capitals, scan_capitals, scan_withoutBlanks_of_parse hf, scan_withoutBlanks_of_parse hg,
      ← (parse_eq_ok_iff.mp hf).1, ← (parse_eq_ok_iff.mp hg).1] at tokens
    exact eq_of_inCapitals_eq tokens

/-- Blanks of several kinds, a small letter and a small exponent mark, against none of them. -/
theorem blanks_and_case_exponent :
    ∃ f g ws ws', parse true " x1\t*\u30002e5" = .ok (f, ws) ∧ parse false "X1*2E5" = .ok (g, ws') ∧
      parse true (Text.withoutBlanks " x1\t*\u30002e5") = .ok (f, ws) ∧
      Grammar.validate (scan (Token.capitals "2e5x")) =
        .error ⟨.invalidToken, some ⟨.unrecognized, "X"⟩, some 1⟩ ∧
      f.canonical = g.canonical ∧ f.variableNames = g.variableNames ∧ (f == g) = true := by
  have first : ((parse true " x1\t*\u30002e5").toOption.map fun p => p.1.canonical) =
      some "X1*200000" := by
    decide +kernel
  have second : ((parse false "X1*2E5").toOption.map fun p => p.1.canonical) =
      some "X1*200000" := by
    decide +kernel
  have rejected : Grammar.validate (scan "2e5x") =
      .error ⟨.invalidToken, some ⟨.unrecognized, "x"⟩, some 1⟩ := by
    decide +kernel
  have same : Token.capitals (Text.withoutBlanks " x1\t*\u30002e5") =
      Token.capitals (Text.withoutBlanks "X1*2E5") := by
    decide +kernel
  obtain ⟨f, ws, hf, -⟩ := exists_parse first
  obtain ⟨g, ws', hg, -⟩ := exists_parse second
  obtain ⟨spacing, letters, both⟩ := blanks_and_case
  exact ⟨f, g, ws, ws', hf, hg, (spacing _ _ f ws hf).2, (letters "2e5x").2.2 _ rejected,
    both _ _ _ _ f g ws ws' hf hg same⟩

end Formula

end Formulary
