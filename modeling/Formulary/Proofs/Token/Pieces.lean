import Formulary.Proofs.Token.Scan

/-!
# What scanning drops

A piece of a text is either a run of blanks, which becomes no token, or has no blank in it and becomes the
token with its characters (`Piece.isBlank_of_mem_cut`). Since the pieces are all of the text, the texts of
the tokens are all of the text but its blanks (`flatMap_text_scanChars`).

So every text is its tokens, printed with some blanks in front of them and behind each (`exists_prints`).
-/

set_option autoImplicit false

namespace Formulary

/-- The text with its blanks left out. -/
def Text.withoutBlanks (text : String) : String :=
  String.ofList (text.toList.filter fun c => !isBlank c)

namespace Piece

/-- The characters of a piece are all blanks or none of them is. -/
theorem isBlank_of_mem_cut (c : Char) (s : List Char) :
    ∀ d ∈ (cut c s).1.chars, Text.isBlank d = decide ((cut c s).1.form = .blank) := by
  intro d hd
  cases single : isSingle c with
  | true =>
    rcases cases_of_isSingle single with rfl | rfl | rfl | rfl | rfl | rfl
    all_goals
      rw [List.mem_singleton.mp hd]
      rfl
  | false =>
    rw [cut_of_not_isSingle single] at hd ⊢
    split at hd
    · next alpha =>
      rw [if_pos alpha]
      rcases List.mem_cons.mp hd with rfl | hd
      · exact Text.isBlank_of_isAlphanum (by rw [Char.isAlphanum, alpha, Bool.true_or])
      · exact Text.isBlank_of_isAlphanum (Text.mem_takeWhile d hd)
    · next alpha =>
      rw [if_neg alpha]
      split at hd
      · next l rest read =>
        have literal := (Literal.wellFormed_of_read read).isLiteralChar d hd
        exact Literal.isBlank_of_isLiteralChar literal
      · split at hd
        · next blank =>
          rw [if_pos blank]
          rcases List.mem_cons.mp hd with rfl | hd
          · exact blank
          · exact Text.mem_takeWhile d hd
        · next blank =>
          rw [if_neg blank, List.mem_singleton.mp hd]
          exact Bool.eq_false_iff.mpr blank

/-- A piece becomes no token exactly when it is a run of blanks. -/
theorem token?_eq (p : Piece) :
    (p.form = .blank ∧ p.token? = none) ∨
      (p.form ≠ .blank ∧ ∃ k, p.token? = some ⟨k, String.ofList p.chars⟩) := by
  obtain ⟨form, chars⟩ := p
  cases form with
  | blank => exact .inl ⟨rfl, rfl⟩
  | openParen | closeParen | operator | word | number | other => exact .inr ⟨nofun, _, rfl⟩

theorem flatMap_text_token? (c : Char) (s : List Char) :
    (cut c s).1.token?.toList.flatMap (fun t => t.text.toList) =
      (cut c s).1.chars.filter fun d => !Text.isBlank d := by
  have same := isBlank_of_mem_cut c s
  rcases token?_eq (cut c s).1 with ⟨blank, token⟩ | ⟨visible, k, token⟩
  · have dropped : (cut c s).1.chars.filter (fun d => !Text.isBlank d) = [] :=
      List.filter_eq_nil_iff.mpr fun d hd => by simp [same d hd, blank]
    rw [token, dropped]
    rfl
  · have kept : (cut c s).1.chars.filter (fun d => !Text.isBlank d) = (cut c s).1.chars :=
      List.filter_eq_self.mpr fun d hd => by simp [same d hd, visible]
    rw [token, kept]
    simp

end Piece

/-- The texts of the tokens, joined, are the text without its blanks. -/
theorem flatMap_text_scanChars (s : List Char) :
    (scanChars s).flatMap (fun t => t.text.toList) = s.filter fun c => !Text.isBlank c := by
  induction s using Piece.pieces.induct with
  | case1 =>
    rw [scanChars_nil]
    rfl
  | case2 c s ih =>
    rw [scanChars_cons, List.flatMap_append, Piece.flatMap_text_token?, ih, ← List.filter_append,
      Piece.cut_append]

/-- Without its blanks, a text is scanned as the same tokens, if they have their shapes and no two values
stand side by side. -/
theorem scan_withoutBlanks {text : String} (shapes : ∀ t ∈ scan text, t.hasShape = true)
    (apart : (scan text).IsChain fun a b => a.kind.isValue = true → b.kind.isValue = false) :
    scan (Text.withoutBlanks text) = scan text := by
  have joined := scanChars_flatMap shapes apart
  rw [scan, flatMap_text_scanChars] at joined
  rw [scan, Text.withoutBlanks, String.toList_ofList, joined, scan]

/-! ## A text as its tokens -/

/-- The text is that of the tokens, with nothing but blanks in front of them and behind each. -/
structure Prints (front : String) (spaced : List (Token × String)) (text : String) : Prop where
  chars : text.toList = front.toList ++ printedChars spaced
  lead : ∀ c ∈ front.toList, Text.isBlank c = true
  blanks : ∀ p ∈ spaced, ∀ c ∈ p.2.toList, Text.isBlank c = true

theorem exists_prints_chars (s : List Char) :
    ∃ front spaced, Prints front spaced (String.ofList s) ∧ scanChars s = spaced.map Prod.fst := by
  induction s using Piece.pieces.induct with
  | case1 => exact ⟨"", [], ⟨rfl, by simp, by simp⟩, scanChars_nil⟩
  | case2 c s ih =>
    obtain ⟨front, spaced, ⟨chars, lead, blanks⟩, tokens⟩ := ih
    have same := Piece.isBlank_of_mem_cut c s
    have whole := Piece.cut_append c s
    rw [String.toList_ofList] at chars
    rw [chars] at whole
    rcases Piece.token?_eq (Piece.cut c s).1 with ⟨blank, token⟩ | ⟨-, k, token⟩
    · -- blanks go in front of what is behind them
      refine ⟨String.ofList (Piece.cut c s).1.chars ++ front, spaced, ⟨?_, ?_, blanks⟩, ?_⟩
      · rw [String.toList_ofList, String.toList_append, String.toList_ofList, List.append_assoc, whole]
      · intro d hd
        rw [String.toList_append, String.toList_ofList] at hd
        rcases List.mem_append.mp hd with hd | hd
        · rw [same d hd]
          exact decide_eq_true blank
        · exact lead d hd
      · rw [scanChars_cons, token, tokens]
        rfl
    · -- what was in front of the rest is behind this token
      refine ⟨"", (⟨k, String.ofList (Piece.cut c s).1.chars⟩, front) :: spaced, ⟨?_, ?_, ?_⟩, ?_⟩
      · simp only [String.toList_ofList, String.toList_empty, List.nil_append, printedChars_cons]
        exact whole.symm
      · simp
      · exact List.forall_mem_cons.mpr ⟨lead, blanks⟩
      · rw [scanChars_cons, token, tokens]
        rfl

/-- Every text is a printing of its tokens. -/
theorem exists_prints (text : String) :
    ∃ front spaced, Prints front spaced text ∧ scan text = spaced.map Prod.fst := by
  have found := exists_prints_chars text.toList
  rwa [String.ofList_toList] at found

end Formulary
