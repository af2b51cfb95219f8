import Formulary.Proofs.Token.Canonical

/-!
# Scanning a text in capitals

The tokens of a text written in capitals are the tokens of the text, written in capitals
(`scan_capitals`). It holds of every text, because it holds of every step: what is asked of a character
while a literal is read or a piece is cut off has the same answer for its capital.

For a token by itself the letters do not matter either: in capitals it has its shape and is sound exactly
when it was before (`Token.isSound_inCapitals`), and if it is, the canonical text is the same
(`Token.canonical_inCapitals`).
-/

set_option autoImplicit false

namespace Formulary

namespace Literal

/-! ## Literals -/

/-- The exponent in capitals. -/
def Scale.capitals (e : Scale) : Scale :=
  ⟨e.mark.toUpper, e.sign.map Char.toUpper, e.digits.map Char.toUpper⟩

/-- The literal in capitals. -/
def capitals (l : Literal) : Literal :=
  ⟨l.whole.map Char.toUpper, l.fraction.map (List.map Char.toUpper), l.scale.map Scale.capitals⟩

/-- What was read and what is left, both in capitals. -/
def upper {α : Type} (f : α → α) : α × List Char → α × List Char :=
  Prod.map f (List.map Char.toUpper)

theorem Scale.chars_capitals (e : Scale) : e.capitals.chars = e.chars.map Char.toUpper := by
  obtain ⟨mark, sign, digits⟩ := e
  cases sign with
  | none => simp [capitals, chars]
  | some c => simp [capitals, chars]

theorem chars_capitals (l : Literal) : l.capitals.chars = l.chars.map Char.toUpper := by
  obtain ⟨whole, fraction, scale⟩ := l
  have point : Char.toUpper '.' = '.' := by decide
  cases fraction with
  | none =>
    cases scale with
    | none => simp [capitals, chars]
    | some e => simp [capitals, chars, Scale.chars_capitals]
  | some f =>
    cases scale with
    | none => simp [capitals, chars, point]
    | some e => simp [capitals, chars, Scale.chars_capitals, point]

theorem Scale.finish_map_toUpper (mark : Char) (sign : Option Char) (s : List Char) :
    Scale.finish mark.toUpper (sign.map Char.toUpper) (s.map Char.toUpper) =
      (Scale.finish mark sign s).map (upper Scale.capitals) := by
  rw [finish, finish, Text.takeWhile_map_toUpper Text.isDigit_toUpper,
    Text.dropWhile_map_toUpper Text.isDigit_toUpper, List.isEmpty_map]
  split
  · rfl
  · rfl

theorem Scale.read_map_toUpper (s : List Char) :
    Scale.read (s.map Char.toUpper) = (Scale.read s).map (upper Scale.capitals) := by
  match s with
  | [] => rfl
  | [_] => rfl
  | m :: c :: s =>
    have signed := finish_map_toUpper m (some c) s
    have unsigned := finish_map_toUpper m none (c :: s)
    rw [List.map_cons, List.map_cons, Scale.read, Scale.read, Text.isMark_toUpper,
      Text.isSign_toUpper]
    split
    · split
      · exact signed
      · exact unsigned
    · rfl

theorem withScale_map_toUpper (whole : List Char) (fraction : Option (List Char))
    (s : List Char) :
    withScale (whole.map Char.toUpper) (fraction.map (List.map Char.toUpper))
      (s.map Char.toUpper) = upper capitals (withScale whole fraction s) := by
  rw [withScale, withScale, Scale.read_map_toUpper]
  cases Scale.read s with
  | none => rfl
  | some p => rfl

/-- Reading a text in capitals reads the literal in capitals. -/
theorem read_map_toUpper (s : List Char) :
    read (s.map Char.toUpper) = (read s).map (upper capitals) := by
  have take := Text.takeWhile_map_toUpper Text.isDigit_toUpper s
  have drop := Text.dropWhile_map_toUpper Text.isDigit_toUpper s
  by_cases h : ∃ t, s.dropWhile Char.isDigit = '.' :: t
  · obtain ⟨t, ht⟩ := h
    have point : (s.map Char.toUpper).dropWhile Char.isDigit = '.' :: t.map Char.toUpper := by
      rw [drop, ht, List.map_cons]
      rfl
    rw [read_point point, read_point ht, take, Text.takeWhile_map_toUpper Text.isDigit_toUpper,
      Text.dropWhile_map_toUpper Text.isDigit_toUpper, List.isEmpty_map, List.isEmpty_map]
    split
    · rfl
    · exact congrArg some (withScale_map_toUpper _ (some _) _)
  · have whole : ∀ t, s.dropWhile Char.isDigit ≠ '.' :: t := fun t ht => h ⟨t, ht⟩
    have none : ∀ t, (s.map Char.toUpper).dropWhile Char.isDigit ≠ '.' :: t := by
      intro t ht
      rw [drop] at ht
      obtain ⟨c, t', hc, point, -⟩ := List.map_eq_cons_iff.mp ht
      rw [(Text.toUpper_eq_iff (by decide) c).mp point] at hc
      exact whole t' hc
    rw [read_whole none, read_whole whole, take, drop, List.isEmpty_map]
    split
    · rfl
    · exact congrArg some (withScale_map_toUpper _ Option.none _)

theorem ofChars?_map_toUpper (s : List Char) :
    ofChars? (s.map Char.toUpper) = (ofChars? s).map capitals := by
  rw [ofChars?, ofChars?, read_map_toUpper]
  cases read s with
  | none => rfl
  | some p =>
    obtain ⟨l, rest⟩ := p
    cases rest with
    | nil => rfl
    | cons c rest => rfl

theorem Scale.WellFormed.capitals_eq {e : Scale} (h : e.WellFormed) :
    e.capitals = { e with mark := e.mark.toUpper } := by
  have sign : e.sign.map Char.toUpper = e.sign := by
    cases hs : e.sign with
    | none => rfl
    | some c =>
      rcases cases_of_isSign (h.sign c hs) with rfl | rfl
      all_goals rfl
  rw [Scale.capitals, sign, Text.map_toUpper_digits h.digits]

/-- In capitals, only the mark of the exponent can be another one. -/
theorem WellFormed.capitals_eq {l : Literal} (h : l.WellFormed) :
    l.capitals = { l with scale := l.scale.map fun e => { e with mark := e.mark.toUpper } } := by
  have fraction : l.fraction.map (List.map Char.toUpper) = l.fraction := by
    cases hf : l.fraction with
    | none => rfl
    | some f => exact congrArg some (Text.map_toUpper_digits (h.fraction f hf))
  have scale : l.scale.map Scale.capitals =
      l.scale.map fun e => { e with mark := e.mark.toUpper } := by
    cases hs : l.scale with
    | none => rfl
    | some e => exact congrArg some (h.scale e hs).capitals_eq
  rw [Literal.capitals, Text.map_toUpper_digits h.whole, fraction, scale]

theorem WellFormed.capitals {l : Literal} (h : l.WellFormed) : l.capitals.WellFormed := by
  rw [h.capitals_eq]
  refine ⟨h.whole, h.fraction, h.ne_nil, fun e he => ?_⟩
  obtain ⟨e', he', rfl⟩ := Option.map_eq_some_iff.mp he
  have own := h.scale e' he'
  exact ⟨(Text.isMark_toUpper _).trans own.mark, own.sign, own.digits, own.ne_nil⟩

theorem WellFormed.value_capitals {l : Literal} (h : l.WellFormed) :
    l.capitals.value = l.value := by
  rw [h.capitals_eq]
  obtain ⟨whole, fraction, scale⟩ := l
  cases scale with
  | none => rfl
  | some e => rfl

end Literal

namespace Piece

/-! ## Pieces -/

/-- The piece in capitals. -/
def capitals (p : Piece) : Piece :=
  ⟨p.form, p.chars.map Char.toUpper⟩

theorem isAlpha_of_isSingle {c : Char} (h : isSingle c = true) : c.isAlpha = false := by
  rcases cases_of_isSingle h with rfl | rfl | rfl | rfl | rfl | rfl
  all_goals decide

/-- From a text in capitals the same piece is cut off, in capitals. -/
theorem cut_map_toUpper (c : Char) (s : List Char) :
    cut c.toUpper (s.map Char.toUpper) = Literal.upper capitals (cut c s) := by
  cases single : isSingle c with
  | true =>
    have same := Text.toUpper_of_not_isAlpha (isAlpha_of_isSingle single)
    obtain ⟨form, cut⟩ := exists_cut_single single
    rw [same, cut, cut]
    simp [Literal.upper, capitals, same]
  | false =>
    have other : isSingle c.toUpper = false :=
      (Text.apply_toUpper (fun _ => isAlpha_of_isSingle) c).trans single
    rw [cut_of_not_isSingle single, cut_of_not_isSingle other, Char.isAlpha_toUpper_eq_isAlpha,
      ← List.map_cons, Literal.read_map_toUpper, Text.isBlank_toUpper,
      Text.takeWhile_map_toUpper Text.isAlphanum_toUpper,
      Text.dropWhile_map_toUpper Text.isAlphanum_toUpper,
      Text.takeWhile_map_toUpper Text.isBlank_toUpper,
      Text.dropWhile_map_toUpper Text.isBlank_toUpper]
    split
    · rfl
    · cases Literal.read (c :: s) with
      | some p => simp [Literal.upper, capitals, Literal.chars_capitals]
      | none =>
        simp only [Option.map_none]
        split
        · rfl
        · rfl

theorem pieces_map_toUpper (s : List Char) :
    pieces (s.map Char.toUpper) = (pieces s).map capitals := by
  induction s using pieces.induct with
  | case1 => simp [pieces]
  | case2 c s ih =>
    rw [List.map_cons, pieces, pieces, cut_map_toUpper, List.map_cons, ← ih]
    rfl

end Piece

namespace Token

/-! ## Tokens -/

/-- The token in capitals. -/
def inCapitals (t : Token) : Token :=
  ⟨t.kind, capitals t.text⟩

theorem token?_capitals (p : Piece) : p.capitals.token? = p.token?.map inCapitals := by
  obtain ⟨form, chars⟩ := p
  have text : String.ofList (chars.map Char.toUpper) = capitals (String.ofList chars) := by
    rw [capitals, String.toList_ofList]
  cases form with
  | blank => rfl
  | word => simp [Piece.token?, Piece.kind?, Piece.capitals, inCapitals, isVariableName_capitals, text]
  | openParen | closeParen | operator | number | other =>
    simp [Piece.token?, Piece.kind?, Piece.capitals, inCapitals, text]

end Token

/-- Scanning a text in capitals gives its tokens in capitals. -/
theorem scan_capitals (text : String) :
    scan (Token.capitals text) = (scan text).map Token.inCapitals := by
  rw [scan, scan, scanChars, scanChars, Token.toList_capitals, Piece.pieces_map_toUpper,
    List.filterMap_map, List.map_filterMap]
  congr 1
  funext p
  exact Token.token?_capitals p

namespace Token

/-! ## Shape and value of a token in capitals -/

theorem map_toUpper_eq_singleton_iff {d : Char} (h : d.isAlpha = false) (s : List Char) :
    s.map Char.toUpper = [d] ↔ s = [d] := by
  match s with
  | [] => simp
  | [c] => simp [Text.toUpper_eq_iff h]
  | _ :: _ :: _ => simp

theorem capitals_beq {d : Char} (h : d.isAlpha = false) (text : String) :
    (capitals text == String.singleton d) = (text == String.singleton d) := by
  rw [Bool.eq_iff_iff, beq_iff_eq, beq_iff_eq, ← String.toList_inj, ← String.toList_inj,
    toList_capitals, String.toList_singleton, map_toUpper_eq_singleton_iff h]

theorem isOperatorText_map_toUpper (s : List Char) :
    isOperatorText (s.map Char.toUpper) = isOperatorText s := by
  match s with
  | [] => rfl
  | _ :: _ :: _ => rfl
  | [c] =>
    refine Text.apply_toUpper (p := isOperatorChar) (fun a ha => ?_) c
    exact Piece.isAlpha_of_isSingle (by rw [Piece.isSingle, ha, Bool.or_true])

theorem hasShape_inCapitals (t : Token) : t.inCapitals.hasShape = t.hasShape := by
  obtain ⟨kind, text⟩ := t
  cases kind with
  | number =>
    simp only [hasShape, inCapitals, toList_capitals, Literal.ofChars?_map_toUpper,
      Option.isSome_map]
  | var => simp only [hasShape, inCapitals, toList_capitals, isVariableName_capitals]
  | operator => simp only [hasShape, inCapitals, toList_capitals, isOperatorText_map_toUpper]
  | openParen => exact capitals_beq (d := '(') (by decide) text
  | closeParen => exact capitals_beq (d := ')') (by decide) text
  | unrecognized => rfl

theorem read_capitals {l : Literal} (h : l.WellFormed) :
    Binary64.read (capitals (String.ofList l.chars)) = Binary64.read (String.ofList l.chars) := by
  rw [capitals, String.toList_ofList, ← Literal.chars_capitals, Binary64.read_chars h.capitals,
    Binary64.read_chars h, h.value_capitals]

theorem isSound_inCapitals (t : Token) : t.inCapitals.isSound = t.isSound := by
  rw [Bool.eq_iff_iff, isSound_iff, isSound_iff, hasShape_inCapitals]
  apply and_congr_right
  intro shape
  apply imp_congr_right
  intro (number : t.kind = .number)
  obtain ⟨l, wf, text⟩ := exists_literal number shape
  have same : Binary64.read t.inCapitals.text = Binary64.read t.text := by
    rw [inCapitals, text, read_capitals wf]
  rw [same]

theorem sameMeaning_inCapitals {t : Token} (h : t.hasShape = true) :
    SameMeaning t.inCapitals t := by
  obtain ⟨kind, text⟩ := t
  refine ⟨rfl, ?_⟩
  cases kind with
  | number =>
    obtain ⟨l, wf, rfl⟩ : ∃ l : Literal, l.WellFormed ∧ text = String.ofList l.chars :=
      exists_literal rfl h
    exact ⟨_, (read_capitals wf).trans (Binary64.read_chars wf), Binary64.read_chars wf⟩
  | var => exact (capitals_eq_iff _ _).mp (capitals_capitals text)
  | operator | openParen | closeParen =>
    obtain ⟨c, single, hc, -⟩ := exists_single h rfl
    have same : text.toList.map Char.toUpper = text.toList :=
      Text.map_toUpper_eq_self fun d hd => by
        rw [hc] at hd
        rw [List.mem_singleton.mp hd, Piece.isAlpha_of_isSingle single]
    exact (congrArg String.ofList same).trans String.ofList_toList
  | unrecognized => exact absurd h Bool.false_ne_true

/-- What stands for a sound token in a canonical text does not depend on the case of its letters. -/
theorem canonical_inCapitals {t : Token} (h : t.isSound = true) :
    t.inCapitals.canonical = t.canonical := by
  have sound : t.inCapitals.isSound = true := (isSound_inCapitals t).trans h
  exact (canonical_eq_iff sound h rfl).mpr (sameMeaning_inCapitals (hasShape_of_isSound h))

end Token

end Formulary
