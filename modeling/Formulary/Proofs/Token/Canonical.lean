import Formulary.Proofs.Precision
import Formulary.Proofs.Text.Capitals
import Formulary.Proofs.Token.Scan

/-!
# Canonical tokens

The canonical text of a sound token is the text of a token of the same kind, the normal form of the first
(`Token.exists_normalForm`). What the normal forms are good for is `Token.Normal`: they are sound, they
are their own normal forms, they are made of few characters, and none is warned about.

Two sound tokens have the same normal form exactly when they mean the same (`Token.normalForm_eq_iff`):
the same double, the same name up to the case of its letters, or the same character.
-/

set_option autoImplicit false

namespace Formulary

namespace Binary64

/-! ## Numbers -/

theorem magnitudeText_injective {layout : Layout} {m n : Nat} (hm : m < infinite)
    (hn : n < infinite) (h : magnitudeText layout m = magnitudeText layout n) : m = n := by
  obtain ⟨l, hl, spells⟩ := exists_spelling layout hm
  obtain ⟨l', hl', spells'⟩ := exists_spelling layout hn
  have same : l = l' := spells.wellFormed.eq_of_chars_eq spells'.wellFormed (by rw [hl, hl', h])
  rw [← spells.nearest, ← spells'.nearest, same]

/-- The canonical text of a finite literal is that of its magnitude: a literal has no sign. -/
theorem normalize_chars {l : Literal} (h : l.WellFormed) (finite : l.value.nearest < infinite) :
    normalize (String.ofList l.chars) =
      .ok (String.ofList (magnitudeText .canonical l.value.nearest)) := by
  have known : (l.value.toBinary64 false).isFinite = true := decide_eq_true finite
  have text : (l.value.toBinary64 false).finiteText .canonical =
      magnitudeText .canonical l.value.nearest := by
    rw [finiteText, Decimal.toBinary64, if_neg Bool.false_ne_true]
  rw [normalize, read_chars h]
  simp only [render]
  rw [if_pos known, text]

end Binary64

namespace Token

/-- The magnitude of a sound number token, and its canonical text. -/
theorem exists_magnitude {t : Token} (hk : t.kind = .number) (hs : t.isSound = true) :
    ∃ v : Binary64, v.negative = false ∧ v.magnitude < Binary64.infinite ∧
      Binary64.read t.text = .ok v ∧
      t.canonical = .ok (String.ofList (Binary64.magnitudeText .canonical v.magnitude)) := by
  obtain ⟨shape, hv⟩ := (isSound_iff t).mp hs
  obtain ⟨v, read, finite⟩ := hv hk
  obtain ⟨l, wf, ht⟩ := exists_literal hk shape
  rw [ht, Binary64.read_chars wf] at read
  obtain rfl := Except.ok.inj read
  have bound : l.value.nearest < Binary64.infinite := of_decide_eq_true finite
  refine ⟨l.value.toBinary64 false, rfl, bound, by rw [ht, Binary64.read_chars wf], ?_⟩
  rw [canonical, hk, ht]
  exact Binary64.normalize_chars wf bound

/-! ## Names -/

/-- A text with its ASCII letters made capital. -/
def capitals (text : String) : String :=
  String.ofList (text.toList.map Char.toUpper)

theorem toList_capitals (text : String) : (capitals text).toList = text.toList.map Char.toUpper := by
  rw [capitals, String.toList_ofList]

theorem isVariableName_capitals (s : List Char) :
    isVariableName (s.map Char.toUpper) = isVariableName s := by
  have digits : Char.isDigit ∘ Char.toUpper = Char.isDigit := funext Text.isDigit_toUpper
  rw [isVariableName, isVariableName, Text.takeWhile_map_toUpper Char.isAlpha_toUpper_eq_isAlpha,
    Text.dropWhile_map_toUpper Char.isAlpha_toUpper_eq_isAlpha, List.isEmpty_map, List.isEmpty_map,
    List.all_map, digits]

theorem capitals_capitals (text : String) : capitals (capitals text) = capitals text := by
  have twice : Char.toUpper ∘ Char.toUpper = Char.toUpper := by
    funext c
    exact Char.toUpper_toUpper_eq_toUpper c
  rw [capitals, capitals, String.toList_ofList, List.map_map, twice]

/-- Capitals forget the case of the letters and nothing else. -/
theorem capitals_eq_iff (a b : String) :
    capitals a = capitals b ↔ a.toList.map Char.toLower = b.toList.map Char.toLower := by
  have lower : Char.toLower ∘ Char.toUpper = Char.toLower := by
    funext c
    exact Char.toLower_toUpper_eq_toLower c
  have upper : Char.toUpper ∘ Char.toLower = Char.toUpper := by
    funext c
    exact Char.toUpper_toLower_eq_toUpper c
  rw [capitals, capitals, String.ofList_inj]
  constructor
  · intro h
    rw [← lower, ← List.map_map, h, List.map_map]
  · intro h
    rw [← upper, ← List.map_map, h, List.map_map]

/-- A name is ASCII, so nothing but its case is changed. -/
theorem canonical_of_var {t : Token} (hk : t.kind = .var) (shape : t.hasShape = true) :
    t.canonical = .ok (capitals t.text) := by
  have name : isVariableName t.text.toList = true := by rwa [hasShape, hk] at shape
  have ascii : ∀ c ∈ t.text.toList, c.toNat < 0x80 := fun c hc =>
    Text.toNat_lt_of_isAlphanum (isAlphanum_of_isVariableName name c hc)
  rw [canonical, hk, capitals]
  exact congrArg Except.ok (Text.inCapitals_eq_map ascii)

/-! ## Characters -/

/-- The characters of canonical texts. -/
def isCanonicalChar (c : Char) : Bool :=
  c.isUpper || c.isDigit || ['.', 'e', '+', '-', '*', '/', '(', ')'].contains c

theorem isBlank_of_isCanonicalChar {c : Char} (h : isCanonicalChar c = true) :
    Text.isBlank c = false := by
  simp only [isCanonicalChar, Bool.or_eq_true] at h
  rcases h with (h | h) | h
  · exact Text.isBlank_of_isAlphanum (by simp [Char.isAlphanum, Char.isAlpha, h])
  · exact Text.isBlank_of_isAlphanum (by simp [Char.isAlphanum, h])
  · simp only [List.contains_iff_mem, List.mem_cons, List.not_mem_nil, or_false] at h
    rcases h with rfl | rfl | rfl | rfl | rfl | rfl | rfl | rfl
    all_goals decide

theorem isCanonicalChar_of_isSingle {c : Char} (h : Piece.isSingle c = true) :
    isCanonicalChar c = true := by
  rcases Piece.cases_of_isSingle h with rfl | rfl | rfl | rfl | rfl | rfl
  all_goals decide

theorem isCanonicalChar_of_spells {n : Nat} {l : Literal} (h : Binary64.Spells n l) :
    ∀ c ∈ l.chars, isCanonicalChar c = true := by
  intro c hc
  rcases h.wellFormed.cases_of_mem_chars hc with hd | rfl | ⟨e, he, rfl⟩ | hs
  · simp [isCanonicalChar, hd]
  · decide
  · rw [h.mark e he]
    decide
  · rcases Literal.cases_of_isSign hs with rfl | rfl
    all_goals decide

theorem isCanonicalChar_toUpper {c : Char} (h : c.isAlphanum = true) :
    isCanonicalChar c.toUpper = true := by
  by_cases alpha : c.isAlpha = true
  · simp [isCanonicalChar, Char.isUpper_toUpper_eq_isAlpha, alpha]
  · have digit : c.isDigit = true := by
      simpa [Char.isAlphanum, alpha] using h
    rw [Text.toUpper_of_not_isAlpha (by simpa using alpha)]
    simp [isCanonicalChar, digit]

/-! ## Normal forms -/

/-- The token `u` is the normal form of `t`. -/
structure NormalForm (t u : Token) : Prop where
  kind : u.kind = t.kind
  text : t.canonical = .ok u.text

/-- A token as it stands in a canonical text. -/
structure Normal (t : Token) : Prop where
  sound : t.isSound = true
  self : NormalForm t t
  chars : ∀ c ∈ t.text.toList, isCanonicalChar c = true
  exact : ∀ warn, t.kind = .number → checkPrecision warn t.text = .ok []

theorem normal_number {n : Nat} (h : n < Binary64.infinite) :
    Normal ⟨.number, String.ofList (Binary64.magnitudeText .canonical n)⟩ := by
  obtain ⟨l, hl, spells⟩ := Binary64.exists_spelling .canonical h
  have bound : l.value.nearest < Binary64.infinite := by
    rw [spells.nearest]
    exact h
  have shape : hasShape ⟨.number, String.ofList l.chars⟩ = true := by
    rw [hasShape, String.toList_ofList, Literal.ofChars?_eq_some_iff.mpr ⟨spells.wellFormed, rfl⟩]
    rfl
  rw [← hl]
  refine ⟨(isSound_iff _).mpr ⟨shape, fun _ => ?_⟩, ⟨rfl, ?_⟩, ?_, fun warn _ => ?_⟩
  · exact ⟨_, Binary64.read_chars spells.wellFormed, decide_eq_true bound⟩
  · have own := Binary64.normalize_chars spells.wellFormed bound
    rw [spells.nearest, ← hl] at own
    exact own
  · rw [String.toList_ofList]
    exact isCanonicalChar_of_spells spells
  · exact checkPrecision_of_spells warn spells

theorem normal_var {text : String} (h : isVariableName text.toList = true) :
    Normal ⟨.var, capitals text⟩ := by
  have name : hasShape ⟨.var, capitals text⟩ = true := by
    rw [hasShape, toList_capitals, isVariableName_capitals, h]
  have other : Kind.var ≠ .number := by decide
  refine ⟨(isSound_iff _).mpr ⟨name, fun number => absurd number other⟩, ⟨rfl, ?_⟩, ?_,
    fun _ number => absurd number other⟩
  · rw [canonical_of_var rfl name, capitals_capitals]
  · intro c hc
    rw [toList_capitals] at hc
    obtain ⟨d, hd, rfl⟩ := List.mem_map.mp hc
    exact isCanonicalChar_toUpper (isAlphanum_of_isVariableName h d hd)

theorem canonical_of_not_isValue {t : Token} (hv : t.kind.isValue = false) :
    t.canonical = .ok t.text := by
  obtain ⟨kind, text⟩ := t
  cases kind with
  | number | var => exact Bool.noConfusion hv
  | operator | openParen | closeParen | unrecognized => rfl

theorem normal_single {t : Token} (hs : t.isSound = true) (hv : t.kind.isValue = false) :
    Normal t := by
  obtain ⟨c, single, hc, -⟩ := exists_single (hasShape_of_isSound hs) hv
  refine ⟨hs, ⟨rfl, canonical_of_not_isValue hv⟩, ?_, ?_⟩
  · rw [hc]
    exact List.forall_mem_singleton.mpr (isCanonicalChar_of_isSingle single)
  · intro warn hk
    rw [hk] at hv
    exact Bool.noConfusion hv

/-- A sound token has a normal form. -/
theorem exists_normalForm {t : Token} (hs : t.isSound = true) : ∃ u, NormalForm t u ∧ u.Normal := by
  cases hk : t.kind with
  | number =>
    obtain ⟨v, -, bound, -, text⟩ := exists_magnitude hk hs
    exact ⟨_, ⟨hk.symm, text⟩, normal_number bound⟩
  | var =>
    have shape := hasShape_of_isSound hs
    have name : isVariableName t.text.toList = true := by rwa [hasShape, hk] at shape
    exact ⟨_, ⟨hk.symm, canonical_of_var hk shape⟩, normal_var name⟩
  | operator | openParen | closeParen | unrecognized =>
    have single : t.kind.isValue = false := by rw [hk]; rfl
    exact ⟨t, ⟨rfl, canonical_of_not_isValue single⟩, normal_single hs single⟩

/-! ## Meaning -/

/-- Tokens of one kind mean the same: numbers by their doubles, variables by their names without regard to
the case of letters, all others by their texts. -/
def SameMeaning (t u : Token) : Prop :=
  t.kind = u.kind ∧
    match t.kind with
    | .number => ∃ v, Binary64.read t.text = .ok v ∧ Binary64.read u.text = .ok v
    | .var => t.text.toList.map Char.toLower = u.text.toList.map Char.toLower
    | _ => t.text = u.text

theorem canonical_eq_iff {t u : Token} (ht : t.isSound = true) (hu : u.isSound = true)
    (kind : t.kind = u.kind) : t.canonical = u.canonical ↔ SameMeaning t u := by
  rw [SameMeaning, and_iff_right kind]
  cases hk : t.kind with
  | number =>
    obtain ⟨v, plus, bound, read, text⟩ := exists_magnitude hk ht
    obtain ⟨w, plus', bound', read', text'⟩ := exists_magnitude (kind.symm.trans hk) hu
    rw [text, text', read, read', Except.ok.injEq, String.ofList_inj]
    -- neither number has a sign, so the magnitude is all there is to a double
    constructor
    · intro same
      have magnitudes := Binary64.magnitudeText_injective bound bound' same
      obtain ⟨negative, magnitude, _⟩ := v
      obtain ⟨negative', magnitude', _⟩ := w
      simp only at plus plus' magnitudes
      subst plus plus' magnitudes
      exact ⟨_, rfl, rfl⟩
    · rintro ⟨x, hv, hw⟩
      rw [Except.ok.inj hv, Except.ok.inj hw]
  | var =>
    rw [canonical_of_var hk (hasShape_of_isSound ht),
      canonical_of_var (kind.symm.trans hk) (hasShape_of_isSound hu), ← capitals_eq_iff]
    exact ⟨Except.ok.inj, congrArg Except.ok⟩
  | operator | openParen | closeParen | unrecognized =>
    have single : t.kind.isValue = false := by rw [hk]; rfl
    rw [canonical_of_not_isValue single, canonical_of_not_isValue (kind ▸ single)]
    exact ⟨Except.ok.inj, congrArg Except.ok⟩

/-- Normal forms keep the meaning and nothing else. -/
theorem normalForm_eq_iff {t u t' u' : Token} (ht : t.isSound = true) (hu : u.isSound = true)
    (nt : NormalForm t t') (nu : NormalForm u u') : t' = u' ↔ SameMeaning t u := by
  constructor
  · rintro rfl
    have kind : t.kind = u.kind := nt.kind.symm.trans nu.kind
    exact (canonical_eq_iff ht hu kind).mp (nt.text.trans nu.text.symm)
  · intro same
    have text : t'.text = u'.text := Except.ok.inj (by
      rw [← nt.text, ← nu.text, (canonical_eq_iff ht hu same.1).mpr same])
    have kind : t'.kind = u'.kind := by rw [nt.kind, nu.kind, same.1]
    exact (Token.mk.injEq _ _ _ _).mpr ⟨kind, text⟩

end Token

end Formulary
