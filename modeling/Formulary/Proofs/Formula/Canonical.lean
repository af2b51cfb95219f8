import Formulary.Proofs.Formula.Construction
import Formulary.Proofs.Grammar.Derivation
import Formulary.Proofs.Token.Canonical

/-!
# The canonical text of a formula

The canonical text has nothing between its tokens, and still it is scanned as the normal forms of the
tokens of the formula (`Formula.scan_canonical`): no two values stand side by side, and nothing else can
run together. The normal forms are accepted where the tokens were, so the canonical text is a formula
with the same canonical text (`Formula.parse_canonical`).

Equality of formulas is equality of these texts. As the normal forms can be read off the text, it is the
same as equality of normal forms, which is sameness of meaning token by token (`Formula.beq_iff`).
-/

set_option autoImplicit false

namespace Formulary

namespace Token

/-! ## Sequences of normal forms -/

theorem exists_normalForms {ts : List Token} (hs : ∀ t ∈ ts, t.isSound = true) :
    ∃ us, List.Forall₂ NormalForm ts us ∧ ∀ u ∈ us, u.Normal := by
  induction ts with
  | nil => exact ⟨[], .nil, nofun⟩
  | cons t ts ih =>
    obtain ⟨ht, hts⟩ := List.forall_mem_cons.mp hs
    obtain ⟨u, nf, normal⟩ := exists_normalForm ht
    obtain ⟨us, nfs, normals⟩ := ih hts
    exact ⟨u :: us, .cons nf nfs, List.forall_mem_cons.mpr ⟨normal, normals⟩⟩

theorem map_kind_normalForms {ts us : List Token} (h : List.Forall₂ NormalForm ts us) :
    us.map Token.kind = ts.map Token.kind := by
  induction h with
  | nil => rfl
  | cons nf _ ih => rw [List.map_cons, List.map_cons, nf.kind, ih]

theorem mapM_canonical_normalForms {ts us : List Token} (h : List.Forall₂ NormalForm ts us) :
    ts.mapM canonical = .ok (us.map Token.text) :=
  mapM_eq_ok_iff.mpr (List.forall₂_map_right_iff.mpr (h.imp fun _ _ nf => nf.text))

theorem normalForms_self {us : List Token} (h : ∀ u ∈ us, u.Normal) :
    List.Forall₂ NormalForm us us :=
  List.forall₂_same.mpr fun u hu => (h u hu).self

theorem normalForms_eq_iff {ts us ts' us' : List Token} (ht : ∀ t ∈ ts, t.isSound = true)
    (hu : ∀ u ∈ us, u.isSound = true) (nt : List.Forall₂ NormalForm ts ts')
    (nu : List.Forall₂ NormalForm us us') : ts' = us' ↔ List.Forall₂ SameMeaning ts us := by
  induction nt generalizing us us' with
  | nil =>
    cases nu with
    | nil => exact iff_of_true rfl .nil
    | cons _ _ => exact iff_of_false nofun nofun
  | cons nf _ ih =>
    cases nu with
    | nil => exact iff_of_false nofun nofun
    | cons nf' nfs' =>
      obtain ⟨ht₀, ht⟩ := List.forall_mem_cons.mp ht
      obtain ⟨hu₀, hu⟩ := List.forall_mem_cons.mp hu
      rw [List.cons.injEq, List.forall₂_cons, normalForm_eq_iff ht₀ hu₀ nf nf', ih ht hu nfs']

end Token

/-- Nothing is warned about in a canonical text. -/
theorem precisionWarnings_of_normal (warn : Bool) {us : List Token} (h : ∀ u ∈ us, u.Normal) :
    precisionWarnings warn us = .ok [] := by
  apply precisionWarnings_eq_nil
  intro u hu number
  exact (h u hu).exact warn number

namespace Formula

/-! ## The canonical text is a formula -/

/-- The texts of a formula are those of its normal forms. -/
theorem texts_eq_map {f : Formula} {us : List Token}
    (h : List.Forall₂ Token.NormalForm f.tokens us) : f.texts = us.map Token.text :=
  Except.ok.inj (f.texts_eq.symm.trans (Token.mapM_canonical_normalForms h))

theorem toList_canonical {f : Formula} {us : List Token}
    (h : List.Forall₂ Token.NormalForm f.tokens us) :
    f.canonical.toList = us.flatMap fun u => u.text.toList := by
  rw [canonical, String.toList_join, texts_eq_map h, List.flatMap_map]

theorem scan_canonical {f : Formula} {us : List Token}
    (h : List.Forall₂ Token.NormalForm f.tokens us) (normal : ∀ u ∈ us, u.Normal) :
    scan f.canonical = us := by
  -- neighbours have the kinds that they have in the formula
  have apart : us.IsChain fun a b => a.kind.isValue = true → b.kind.isValue = false := by
    have kinds := (List.isChain_map (R := fun a b => a.isValue = true → b.isValue = false)
      Token.kind).mpr f.isChain_tokens
    rw [← Token.map_kind_normalForms h] at kinds
    exact (List.isChain_map Token.kind).mp kinds
  rw [scan, toList_canonical h]
  exact scanChars_flatMap (fun u hu => ((Token.isSound_iff u).mp (normal u hu).sound).1) apart

/-- Normal forms are accepted where the tokens are. -/
theorem accepted_normalForms {f : Formula} {us : List Token}
    (h : List.Forall₂ Token.NormalForm f.tokens us) (normal : ∀ u ∈ us, u.Normal) :
    Grammar.rejection? us = none := by
  have own := (Grammar.rejection?_eq_none_iff_derives f.tokens).mp f.accepted
  rw [Grammar.rejection?_eq_none_iff_derives, Token.map_kind_normalForms h]
  exact ⟨fun u hu => (normal u hu).sound, own.2⟩

/-- The canonical text of any formula is read as a formula with the same texts. -/
theorem parse_canonical (f : Formula) :
    ∃ g : Formula, (∀ warn, parse warn f.canonical = .ok (g, [])) ∧
      List.Forall₂ Token.NormalForm f.tokens g.tokens ∧ (∀ u ∈ g.tokens, u.Normal) ∧
        g.texts = f.texts := by
  obtain ⟨us, forms, normal⟩ := Token.exists_normalForms f.isSound_of_mem
  have texts : us.mapM Token.canonical = .ok f.texts := by
    rw [texts_eq_map forms]
    exact Token.mapM_canonical_normalForms (Token.normalForms_self normal)
  refine ⟨⟨us, f.texts, accepted_normalForms forms normal, texts⟩, ?_, forms, normal, rfl⟩
  intro warn
  exact parse_eq_ok_iff.mpr
    ⟨(scan_canonical forms normal).symm, precisionWarnings_of_normal warn normal⟩

/-- The canonical text of a formula is a formula of the normal forms, without any warning. It is its own
canonical text, it has the same variables, and its characters are capitals, digits and those of numbers,
operators and parentheses. -/
theorem canonical_round_trip {warn : Bool} {text : String} {f : Formula} {ws : List Warning}
    (h : parse warn text = .ok (f, ws)) :
    (∃ g : Formula, (∀ warn', parse warn' f.canonical = .ok (g, [])) ∧
      List.Forall₂ Token.NormalForm (scan text) g.tokens ∧
      g.canonical = f.canonical ∧ g.variableNames = f.variableNames) ∧
    ∀ c ∈ f.canonical.toList, Text.isBlank c = false ∧ Token.isCanonicalChar c = true := by
  obtain ⟨g, parsed, forms, normal, texts⟩ := parse_canonical f
  refine ⟨⟨g, parsed, ?_, ?_, ?_⟩, ?_⟩
  · rwa [← (parse_eq_ok_iff.mp h).1]
  · rw [canonical, texts, canonical]
  · rw [variableNames_eq, variableNames_eq, texts, Token.map_kind_normalForms forms]
  · intro c hc
    rw [toList_canonical forms] at hc
    obtain ⟨u, hu, hc⟩ := List.mem_flatMap.mp hc
    have allowed := (normal u hu).chars c hc
    exact ⟨Token.isBlank_of_isCanonicalChar allowed, allowed⟩

/-- A text with blanks, a warning, small letters and an exponent without a sign. -/
theorem canonical_round_trip_scientific :
    ∃ f ws, parse true "2e22(ab1 + 00.10)/ 12345678901234567890" = .ok (f, ws) ∧
      f.canonical = "2e+22(AB1+0.1)/1.2345678901234567e+19" ∧
      (∃ g : Formula, (∀ warn', parse warn' f.canonical = .ok (g, [])) ∧
        List.Forall₂ Token.NormalForm (scan "2e22(ab1 + 00.10)/ 12345678901234567890") g.tokens ∧
        g.canonical = f.canonical ∧ g.variableNames = f.variableNames) ∧
      ∀ c ∈ f.canonical.toList, Text.isBlank c = false ∧ Token.isCanonicalChar c = true := by
  have known : ((parse true "2e22(ab1 + 00.10)/ 12345678901234567890").toOption.map fun p =>
      p.1.canonical) = some "2e+22(AB1+0.1)/1.2345678901234567e+19" := by
    decide +kernel
  obtain ⟨f, ws, parsed, text⟩ := exists_parse known
  exact ⟨f, ws, parsed, text, canonical_round_trip parsed⟩

/-! ## Equality -/

theorem beq_iff_canonical_eq (f g : Formula) : (f == g) = true ↔ f.canonical = g.canonical := by
  have texts : (f == g) = (f.canonical == g.canonical) := rfl
  rw [texts, beq_iff_eq]

/-- Formulas are equal when they have the same normal forms. -/
theorem beq_iff_normalForms {f g : Formula} {us vs : List Token}
    (hf : List.Forall₂ Token.NormalForm f.tokens us) (nf : ∀ u ∈ us, u.Normal)
    (hg : List.Forall₂ Token.NormalForm g.tokens vs) (ng : ∀ v ∈ vs, v.Normal) :
    (f == g) = true ↔ us = vs := by
  rw [beq_iff_canonical_eq]
  constructor
  · intro same
    rw [← scan_canonical hf nf, ← scan_canonical hg ng, same]
  · rintro rfl
    rw [canonical, canonical, texts_eq_map hf, texts_eq_map hg]

theorem beq_iff (f g : Formula) :
    (f == g) = true ↔ List.Forall₂ Token.SameMeaning f.tokens g.tokens := by
  obtain ⟨us, hf, nf⟩ := Token.exists_normalForms f.isSound_of_mem
  obtain ⟨vs, hg, ng⟩ := Token.exists_normalForms g.isSound_of_mem
  rw [beq_iff_normalForms hf nf hg ng]
  exact Token.normalForms_eq_iff f.isSound_of_mem g.isSound_of_mem hf hg

/-- Two texts are equal as formulas when they mean the same token by token. -/
theorem beq_iff_sameMeaning {warn warn' : Bool} {a b : String} {f g : Formula}
    {ws ws' : List Warning} (hf : parse warn a = .ok (f, ws)) (hg : parse warn' b = .ok (g, ws')) :
    (f == g) = true ↔ List.Forall₂ Token.SameMeaning (scan a) (scan b) := by
  rw [beq_iff, (parse_eq_ok_iff.mp hf).1, (parse_eq_ok_iff.mp hg).1]

/-- The same in two spellings: another case of the name, blanks, more digits than a double keeps. -/
theorem beq_iff_sameMeaning_spellings :
    ∃ f g ws ws', parse false "x1*.1" = .ok (f, ws) ∧
      parse true "X1 * 0.10000000000000000555" = .ok (g, ws') ∧
      (f == g) = true ∧
      List.Forall₂ Token.SameMeaning (scan "x1*.1") (scan "X1 * 0.10000000000000000555") := by
  have first : ((parse false "x1*.1").toOption.map fun p => p.1.canonical) = some "X1*0.1" := by
    decide +kernel
  have second : ((parse true "X1 * 0.10000000000000000555").toOption.map fun p =>
      p.1.canonical) = some "X1*0.1" := by
    decide +kernel
  obtain ⟨f, ws, hf, text⟩ := exists_parse first
  obtain ⟨g, ws', hg, text'⟩ := exists_parse second
  have same : (f == g) = true := (beq_iff_canonical_eq f g).mpr (text.trans text'.symm)
  exact ⟨f, g, ws, ws', hf, hg, same, (beq_iff_sameMeaning hf hg).mp same⟩

end Formula

end Formulary
