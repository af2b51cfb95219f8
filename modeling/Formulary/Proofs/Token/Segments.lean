import Formulary.Proofs.Grammar.Rules
import Formulary.Proofs.Number.Continuation
import Formulary.Proofs.Token.Pieces

/-!
# Scanning takes the longest piece

Scanning decides by the first character what a piece is, and then never changes its mind. Here the forms of
pieces are classes of texts, said without scanning (`Piece.Form.Fits`), and a text is segmented by taking
the longest text of any class from its front, again and again, an earlier class going before a later one
(`Segments`). There is only one such segmentation, and it is the one that scanning finds.

The classes hardly meet. Except for the last one, which has every single character, no two of them have
texts that begin alike (`Form.Starts.eq`), so the first character does decide, and being longest is a
question within one class: for runs it is `takeWhile`, and for numbers `Literal.exists_read_of_prefix`.
-/

set_option autoImplicit false

namespace Formulary

/-- Letters and then digits, at least one of each. -/
def Token.IsName (w : List Char) : Prop :=
  ∃ letters digits, w = letters ++ digits ∧ letters ≠ [] ∧ digits ≠ [] ∧
    (∀ c ∈ letters, c.isAlpha = true) ∧ ∀ c ∈ digits, c.isDigit = true

theorem Token.isVariableName_iff (w : List Char) : isVariableName w = true ↔ IsName w := by
  constructor
  · intro name
    simp only [isVariableName, Bool.and_eq_true, Bool.not_eq_true', List.isEmpty_eq_false_iff,
      List.all_eq_true] at name
    obtain ⟨⟨letters, digits⟩, all⟩ := name
    exact ⟨_, _, List.takeWhile_append_dropWhile.symm, letters, digits, Text.mem_takeWhile, all⟩
  · rintro ⟨letters, digits, rfl, some_letter, some_digit, alpha, digit⟩
    have stop : ∀ c ∈ digits.head?, c.isAlpha = false := fun c hc =>
      Text.isAlpha_of_isDigit (digit c (List.mem_of_head? hc))
    rw [isVariableName, Text.takeWhile_append alpha stop, Text.dropWhile_append alpha stop]
    simp [some_letter, some_digit]
    exact digit

namespace Piece

/-! ## Forms as classes of texts -/

/-- The text is one of the form. -/
def Form.Fits : Form → List Char → Prop
  | .openParen, w => w = ['(']
  | .closeParen, w => w = [')']
  | .operator, w => ∃ c, w = [c] ∧ Token.isOperatorChar c = true
  | .word, w => ∃ c v, w = c :: v ∧ c.isAlpha = true ∧ ∀ d ∈ v, d.isAlphanum = true
  | .number, w => ∃ l : Literal, w = l.chars ∧ l.WellFormed
  | .blank, w => w ≠ [] ∧ ∀ c ∈ w, Text.isBlank c = true
  | .other, w => ∃ c, w = [c]

/-- The place of a form among the forms. -/
def Form.rank : Form → Nat
  | .openParen => 0
  | .closeParen => 1
  | .operator => 2
  | .word => 3
  | .number => 4
  | .blank => 5
  | .other => 6

/-- The piece is the longest text of any form at the front of `s`, and no earlier form has it. -/
structure Longest (p : Piece) (s : List Char) : Prop where
  fits : p.form.Fits p.chars
  front : p.chars <+: s
  longest : ∀ (form : Form) (w : List Char), form.Fits w → w <+: s → w.length ≤ p.chars.length
  earliest : ∀ form : Form, form.Fits p.chars → p.form.rank ≤ form.rank

/-- What the texts of a form begin with, if it is a form of its own. -/
def Form.Starts : Form → Char → Prop
  | .openParen, c => c = '('
  | .closeParen, c => c = ')'
  | .operator, c => Token.isOperatorChar c = true
  | .word, c => c.isAlpha = true
  | .number, c => c.isDigit = true ∨ c = '.'
  | .blank, c => Text.isBlank c = true
  | .other, _ => False

variable {form : Form} {w : List Char} {c : Char}

theorem Form.Fits.ne_nil (h : form.Fits w) : w ≠ [] := by
  cases form with
  | openParen | closeParen =>
    rw [h]
    exact List.cons_ne_nil _ _
  | operator | other =>
    obtain ⟨c, rfl, -⟩ := h
    exact List.cons_ne_nil _ _
  | word =>
    obtain ⟨c, v, rfl, -⟩ := h
    exact List.cons_ne_nil _ _
  | number =>
    obtain ⟨l, rfl, wf⟩ := h
    obtain ⟨c, v, chars, -⟩ := wf.head?_chars
    rw [chars]
    exact List.cons_ne_nil c v
  | blank => exact h.1

/-- Apart from the single characters, texts show their form in front. -/
theorem Form.Fits.starts {v : List Char} (h : form.Fits (c :: v)) :
    form = .other ∨ form.Starts c := by
  cases form with
  | openParen | closeParen => exact .inr (List.cons.inj h).1
  | operator =>
    obtain ⟨d, hd, op⟩ := h
    obtain ⟨rfl, -⟩ := List.cons.inj hd
    exact .inr op
  | word =>
    obtain ⟨d, u, hd, alpha, -⟩ := h
    obtain ⟨rfl, -⟩ := List.cons.inj hd
    exact .inr alpha
  | number =>
    obtain ⟨l, hl, wf⟩ := h
    obtain ⟨d, u, chars, first⟩ := wf.head?_chars
    obtain ⟨rfl, -⟩ := List.cons.inj (hl.trans chars)
    exact .inr first
  | blank => exact .inr (h.2 c List.mem_cons_self)
  | other => exact .inl rfl

/-- Where the code points lie that texts of a form begin with. Of the blanks it is only said that they are no
visible ASCII. -/
def Form.Code : Form → Nat → Prop
  | .openParen, n => n = 40
  | .closeParen, n => n = 41
  | .operator, n => n = 42 ∨ n = 43 ∨ n = 45 ∨ n = 47
  | .word, n => (65 ≤ n ∧ n ≤ 90) ∨ (97 ≤ n ∧ n ≤ 122)
  | .number, n => (48 ≤ n ∧ n ≤ 57) ∨ n = 46
  | .blank, n => n ≤ 32 ∨ 133 ≤ n
  | .other, _ => False

theorem Form.Starts.code (h : form.Starts c) : form.Code c.toNat := by
  cases form with
  | openParen | closeParen =>
    obtain rfl : c = _ := h
    rfl
  | operator =>
    have op : Token.isOperatorChar c = true := h
    simp only [Token.isOperatorChar, Bool.or_eq_true, beq_iff_eq] at op
    rcases op with ((rfl | rfl) | rfl) | rfl
    all_goals simp [Form.Code]
  | word => exact (Text.isAlpha_iff c).mp h
  | number =>
    rcases h with digit | rfl
    · exact .inl (Char.isDigit_iff_toNat.mp digit)
    · exact .inr rfl
  | blank =>
    have table := (Text.isBlank_iff c).mp h
    show c.toNat ≤ 32 ∨ 133 ≤ c.toNat
    omega
  | other => exact h

/-- No character begins texts of two forms. -/
theorem Form.Starts.eq {form' : Form} (h : form.Starts c) (h' : form'.Starts c) : form = form' := by
  have code := h.code
  have code' := h'.code
  by_contra different
  cases form
  all_goals
    cases form'
    all_goals unfold Form.Code at code code'
    all_goals first | exact different rfl | omega

/-! ## What is cut off -/

/-- The ways to cut a piece off. A single character that is no form of its own may begin a number, but then
no number is there. -/
theorem cut_cases (c : Char) (s : List Char) :
    (∃ form : Form, (form = .openParen ∨ form = .closeParen ∨ form = .operator) ∧ form.Fits [c] ∧
      cut c s = (⟨form, [c]⟩, s)) ∨
    (c.isAlpha = true ∧
      cut c s = (⟨.word, c :: s.takeWhile Char.isAlphanum⟩, s.dropWhile Char.isAlphanum)) ∨
    (∃ l rest, Literal.read (c :: s) = some (l, rest) ∧ cut c s = (⟨.number, l.chars⟩, rest)) ∨
    (Text.isBlank c = true ∧
      cut c s = (⟨.blank, c :: s.takeWhile Text.isBlank⟩, s.dropWhile Text.isBlank)) ∨
    (Literal.read (c :: s) = none ∧ (∀ form : Form, form.Starts c → form = .number) ∧
      cut c s = (⟨.other, [c]⟩, s)) := by
  cases single : isSingle c with
  | true =>
    left
    rcases cases_of_isSingle single with rfl | rfl | rfl | rfl | rfl | rfl
    · exact ⟨.openParen, .inl rfl, rfl, rfl⟩
    · exact ⟨.closeParen, .inr (.inl rfl), rfl, rfl⟩
    all_goals exact ⟨.operator, .inr (.inr rfl), ⟨_, rfl, rfl⟩, rfl⟩
  | false =>
    right
    rw [cut_of_not_isSingle single]
    by_cases alpha : c.isAlpha = true
    · exact .inl ⟨alpha, if_pos alpha⟩
    rw [if_neg alpha]
    cases read : Literal.read (c :: s) with
    | some found => exact .inr (.inl ⟨found.1, found.2, rfl, rfl⟩)
    | none =>
      by_cases blank : Text.isBlank c = true
      · exact .inr (.inr (.inl ⟨blank, if_pos blank⟩))
      refine .inr (.inr (.inr ⟨rfl, ?_, if_neg blank⟩))
      intro form starts
      cases form with
      | openParen | closeParen =>
        obtain rfl : c = _ := starts
        exact absurd single (by decide)
      | operator =>
        have op : Token.isOperatorChar c = true := starts
        simp [isSingle, op] at single
      | word => exact absurd starts alpha
      | number => rfl
      | blank => exact absurd starts blank
      | other => exact starts.elim

theorem fits_cut (c : Char) (s : List Char) : (cut c s).1.form.Fits (cut c s).1.chars := by
  rcases cut_cases c s with ⟨form, -, fits, hcut⟩ | ⟨alpha, hcut⟩ | ⟨l, rest, read, hcut⟩ |
    ⟨blank, hcut⟩ | ⟨-, -, hcut⟩
  · rw [hcut]
    exact fits
  · rw [hcut]
    exact ⟨c, _, rfl, alpha, Text.mem_takeWhile⟩
  · rw [hcut]
    exact ⟨l, rfl, Literal.wellFormed_of_read read⟩
  · rw [hcut]
    exact ⟨List.cons_ne_nil _ _, List.forall_mem_cons.mpr ⟨blank, Text.mem_takeWhile⟩⟩
  · rw [hcut]
    exact ⟨c, rfl⟩

theorem exists_cut_chars (c : Char) (s : List Char) : ∃ v, (cut c s).1.chars = c :: v := by
  have whole := cut_append c s
  cases chars : (cut c s).1.chars with
  | nil => exact absurd chars (cut_ne_nil c s)
  | cons d v =>
    rw [chars, List.cons_append] at whole
    exact ⟨v, by rw [(List.cons.inj whole).1]⟩

/-- At the front of a text there are texts of one form only, apart from the single character. -/
theorem form_of_fits {s : List Char} (fits : form.Fits w) (front : w <+: c :: s) :
    form = .other ∨ form = (cut c s).1.form := by
  obtain ⟨v, rfl⟩ : ∃ v, w = c :: v := by
    obtain ⟨d, v, rfl⟩ := List.exists_cons_of_ne_nil fits.ne_nil
    exact ⟨v, by rw [(List.cons_prefix_cons.mp front).1]⟩
  refine fits.starts.imp_right fun starts => ?_
  obtain ⟨u, chars⟩ := exists_cut_chars c s
  have own := fits_cut c s
  rw [chars] at own
  rcases own.starts with other | starts'
  · rcases cut_cases c s with ⟨form', short, -, hcut⟩ | ⟨-, hcut⟩ | ⟨l, rest, -, hcut⟩ | ⟨-, hcut⟩ |
      ⟨unread, only, -⟩
    · rw [hcut] at other
      obtain rfl : form' = .other := other
      simp at short
    · simp [hcut] at other
    · simp [hcut] at other
    · simp [hcut] at other
    · -- a number at the front would have been read
      obtain rfl := only form starts
      obtain ⟨l, hl, wf⟩ := fits
      rw [hl] at front
      obtain ⟨found, read, -⟩ := Literal.exists_read_of_prefix wf front
      exact absurd (unread.symm.trans read) (Option.some_ne_none found).symm
  · exact starts.eq starts'

/-- Of its own form, the piece cut off is the longest. -/
theorem length_le_cut {s : List Char} (fits : (cut c s).1.form.Fits w) (front : w <+: c :: s) :
    w.length ≤ (cut c s).1.chars.length := by
  rcases cut_cases c s with ⟨form, short, -, hcut⟩ | ⟨-, hcut⟩ | ⟨l, rest, read, hcut⟩ |
    ⟨-, hcut⟩ | ⟨-, -, hcut⟩
  · rw [hcut] at fits ⊢
    rcases short with rfl | rfl | rfl
    · rw [fits]
      rfl
    · rw [fits]
      rfl
    · obtain ⟨d, rfl, -⟩ := fits
      exact Nat.le_refl 1
  · rw [hcut] at fits ⊢
    obtain ⟨d, v, rfl, -, all⟩ := fits
    exact Nat.succ_le_succ (Text.length_le_takeWhile all (List.cons_prefix_cons.mp front).2)
  · rw [hcut] at fits ⊢
    obtain ⟨l', rfl, wf⟩ := fits
    obtain ⟨found, read', le⟩ := Literal.exists_read_of_prefix wf front
    obtain rfl := Option.some.inj (read.symm.trans read')
    exact le
  · rw [hcut] at fits ⊢
    obtain ⟨d, v, rfl⟩ := List.exists_cons_of_ne_nil fits.1
    have all : ∀ d ∈ v, Text.isBlank d = true := fun d hd => fits.2 d (List.mem_cons_of_mem _ hd)
    exact Nat.succ_le_succ (Text.length_le_takeWhile all (List.cons_prefix_cons.mp front).2)
  · rw [hcut] at fits ⊢
    obtain ⟨d, rfl⟩ := fits
    exact Nat.le_refl 1

theorem longest_cut (c : Char) (s : List Char) : Longest (cut c s).1 (c :: s) := by
  refine ⟨fits_cut c s, ⟨_, cut_append c s⟩, ?_, ?_⟩
  · intro form w fits front
    rcases form_of_fits fits front with rfl | rfl
    · obtain ⟨d, rfl⟩ := fits
      exact List.length_pos_iff.mpr (cut_ne_nil c s)
    · exact length_le_cut fits front
  · intro form fits
    rcases form_of_fits fits ⟨_, cut_append c s⟩ with rfl | rfl
    · cases (cut c s).1.form <;> decide
    · exact Nat.le_refl _

/-! ## Segments -/

variable {p p' : Piece} {s : List Char}

theorem Form.rank_injective : Function.Injective Form.rank := by
  intro form form' same
  cases form
  all_goals
    cases form'
    all_goals first | rfl | exact absurd same (by decide)

/-- There is only one longest piece. -/
theorem Longest.unique (h : Longest p s) (h' : Longest p' s) : p = p' := by
  have same : p.chars = p'.chars :=
    (List.prefix_of_prefix_length_le h.front h'.front (h'.longest p.form p.chars h.fits h.front)
      ).eq_of_length_le (h.longest p'.form p'.chars h'.fits h'.front)
  have le := h.earliest p'.form (by rw [same]; exact h'.fits)
  have ge := h'.earliest p.form (by rw [← same]; exact h.fits)
  have form := Form.rank_injective (Nat.le_antisymm le ge)
  obtain ⟨f, w⟩ := p
  obtain ⟨f', w'⟩ := p'
  obtain rfl : f = f' := form
  obtain rfl : w = w' := same
  rfl

/-- The text cut into pieces, each of them the longest in front of the rest. -/
inductive Segments : List Char → List Piece → Prop
  | nil : Segments [] []
  | cons {p : Piece} {rest : List Char} {ps : List Piece} (longest : Longest p (p.chars ++ rest))
      (h : Segments rest ps) : Segments (p.chars ++ rest) (p :: ps)

theorem segments_pieces (s : List Char) : Segments s (pieces s) := by
  induction s using pieces.induct with
  | case1 =>
    rw [pieces]
    exact .nil
  | case2 c s ih =>
    have longest := longest_cut c s
    rw [← cut_append c s] at longest
    have segments := Segments.cons longest ih
    rw [cut_append] at segments
    rwa [pieces]

theorem Segments.eq_pieces {ps : List Piece} (h : Segments s ps) : ps = pieces s := by
  induction h with
  | nil => rw [pieces]
  | @cons p rest ps longest _ ih =>
    obtain ⟨c, v, chars⟩ := List.exists_cons_of_ne_nil longest.fits.ne_nil
    rw [chars, List.cons_append] at longest ⊢
    have same := longest.unique (longest_cut c (v ++ rest))
    have whole := cut_append c (v ++ rest)
    rw [← same, chars, List.cons_append, List.cons.injEq, List.append_cancel_left_eq] at whole
    rw [pieces, ← same, whole.2, ih]

/-! ## Tokens of the segments -/

/-- The token that a piece stands for: it has the text of the piece, and its kind is the form, where a word
is a variable if it is a name and not recognized otherwise. -/
def Becomes (p : Piece) (t : Token) : Prop :=
  t.text = String.ofList p.chars ∧
    match p.form with
    | .openParen => t.kind = .openParen
    | .closeParen => t.kind = .closeParen
    | .operator => t.kind = .operator
    | .word => (t.kind = .var ∧ Token.IsName p.chars) ∨ (t.kind = .unrecognized ∧ ¬ Token.IsName p.chars)
    | .number => t.kind = .number
    | .blank => False
    | .other => t.kind = .unrecognized

theorem exists_becomes (visible : p.form ≠ .blank) : ∃ t, p.token? = some t ∧ Becomes p t := by
  obtain ⟨form, chars⟩ := p
  cases form with
  | blank => exact absurd rfl visible
  | openParen | closeParen | operator | number | other => exact ⟨_, rfl, rfl, rfl⟩
  | word =>
    refine ⟨_, rfl, rfl, ?_⟩
    by_cases name : Token.isVariableName chars = true
    · exact .inl ⟨if_pos name, (Token.isVariableName_iff chars).mp name⟩
    · exact .inr ⟨if_neg name, fun letters => name ((Token.isVariableName_iff chars).mpr letters)⟩

theorem forall₂_becomes (ps : List Piece) :
    List.Forall₂ Becomes (ps.filter fun p => p.form ≠ .blank) (ps.filterMap token?) := by
  induction ps with
  | nil => exact .nil
  | cons p ps ih =>
    by_cases blank : p.form = .blank
    · have dropped : p.token? = none := by
        obtain ⟨form, chars⟩ := p
        obtain rfl : form = .blank := blank
        rfl
      rw [List.filter_cons_of_neg (by simp [blank]), List.filterMap_cons_none dropped]
      exact ih
    · obtain ⟨t, token, becomes⟩ := exists_becomes blank
      rw [List.filter_cons_of_pos (by simp [blank]), List.filterMap_cons_some token]
      exact .cons becomes ih

end Piece

/-! ## Tokens of a text -/

/-- Every token was cut off somewhere. -/
theorem exists_cut_of_mem_scanChars {t : Token} {s : List Char} (ht : t ∈ scanChars s) :
    ∃ c v, (Piece.cut c v).1.token? = some t := by
  induction s using Piece.pieces.induct with
  | case1 => simp at ht
  | case2 c s ih =>
    rw [scanChars_cons, List.mem_append, Option.mem_toList] at ht
    rcases ht with first | later
    · exact ⟨c, s, first⟩
    · exact ih later

theorem text_ne_empty_of_mem_scan {t : Token} {text : String} (ht : t ∈ scan text) :
    t.text ≠ "" := by
  obtain ⟨c, v, token⟩ := exists_cut_of_mem_scanChars ht
  have hne := Piece.cut_ne_nil c v
  rw [Piece.token?, Option.map_eq_some_iff] at token
  obtain ⟨k, -, rfl⟩ := token
  simpa using hne

/-- The texts of the tokens, joined, are the text without its blanks. -/
theorem join_text_scan (text : String) :
    String.join ((scan text).map Token.text) = Text.withoutBlanks text := by
  rw [Text.withoutBlanks, ← flatMap_text_scanChars, ← String.toList_inj, String.toList_ofList,
    String.toList_join, List.flatMap_map]
  rfl

theorem scan_eq_nil_iff (text : String) :
    scan text = [] ↔ ∀ c ∈ text.toList, Text.isBlank c = true := by
  constructor
  · intro empty
    have dropped := flatMap_text_scanChars text.toList
    rw [← scan, empty, List.flatMap_nil] at dropped
    simpa using List.filter_eq_nil_iff.mp dropped.symm
  · intro blank
    rw [scan, ← List.append_nil text.toList, scanChars_append_of_isBlank blank, scanChars_nil]

/-- A text has one segmentation into longest pieces, and its tokens are those of the pieces that are not
blank. So the tokens have all of the text but its blanks, none of them is empty, and there is no token, which
is the empty formula, exactly when all of the text is blank. -/
theorem scan_longest_match (text : String) :
    (∃ ps, Piece.Segments text.toList ps ∧ (∀ ps', Piece.Segments text.toList ps' → ps' = ps) ∧
      List.Forall₂ Piece.Becomes (ps.filter fun p => p.form ≠ .blank) (scan text)) ∧
    String.join ((scan text).map Token.text) = Text.withoutBlanks text ∧
    (∀ t ∈ scan text, t.text ≠ "") ∧
    (scan text = [] ↔ ∀ c ∈ text.toList, Text.isBlank c = true) ∧
    (Grammar.diagnose (scan text) = some .emptyFormula ↔
      ∀ c ∈ text.toList, Text.isBlank c = true) := by
  refine ⟨⟨Piece.pieces text.toList, Piece.segments_pieces _, ?_, Piece.forall₂_becomes _⟩,
    join_text_scan text, fun t => text_ne_empty_of_mem_scan, scan_eq_nil_iff text, ?_⟩
  · intro ps' segments
    exact segments.eq_pieces
  · rw [Grammar.diagnose_eq_emptyFormula_iff, scan_eq_nil_iff]

/-- A literal takes its one point and no exponent without digits; a word takes every letter and digit. -/
example : scan ".5.e+x1y \u0663" =
    [⟨.number, ".5"⟩, ⟨.unrecognized, "."⟩, ⟨.unrecognized, "e"⟩, ⟨.operator, "+"⟩,
      ⟨.unrecognized, "x1y"⟩, ⟨.unrecognized, "\u0663"⟩] := by
  decide +kernel

end Formulary
