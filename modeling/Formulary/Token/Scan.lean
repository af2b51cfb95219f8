import Formulary.Token

/-!
# Scanning

Scanning cuts a text into *pieces* and turns them into tokens. It never fails: what it does not
recognize becomes an unrecognized token, for the grammar to report.

The first character decides what a piece is, in this order: a parenthesis, an operator, a word (a
letter and the letters and digits after it), the longest numeric literal, a run of blanks, and any
other character by itself. Runs of blanks are dropped. A word is taken whole even when it is no name
of a variable, so that `x1y` is one unrecognized token, while `2x1` is the number `2` and the
variable `x1`.

The pieces of a text, joined, are the text again (`flatMap_pieces`).
-/

set_option autoImplicit false

namespace Formulary

/-- What a piece of text is. -/
inductive Piece.Form
  | openParen
  | closeParen
  | operator
  /-- A letter, and letters and digits. -/
  | word
  | number
  | blank
  | other
deriving DecidableEq, Repr

/-- A stretch of the scanned text. -/
structure Piece where
  form : Piece.Form
  chars : List Char
deriving DecidableEq, Repr

namespace Piece

/-! ## Cutting -/

/-- The piece at the front of the text `c :: s`, and the text after it. -/
def cut (c : Char) (s : List Char) : Piece × List Char :=
  if c = '(' then (⟨.openParen, [c]⟩, s)
  else if c = ')' then (⟨.closeParen, [c]⟩, s)
  else if Token.isOperatorChar c then (⟨.operator, [c]⟩, s)
  else if c.isAlpha then
    (⟨.word, c :: s.takeWhile Char.isAlphanum⟩, s.dropWhile Char.isAlphanum)
  else
    match Literal.read (c :: s) with
    | some (l, rest) => (⟨.number, l.chars⟩, rest)
    | none =>
      if Text.isBlank c then (⟨.blank, c :: s.takeWhile Text.isBlank⟩, s.dropWhile Text.isBlank)
      else (⟨.other, [c]⟩, s)

/-- Cutting loses nothing. -/
theorem cut_append (c : Char) (s : List Char) : (cut c s).1.chars ++ (cut c s).2 = c :: s := by
  unfold cut
  split
  · rfl
  split
  · rfl
  split
  · rfl
  split
  · simp [List.takeWhile_append_dropWhile]
  split
  · next h => exact Literal.chars_append_of_read h
  · split
    · simp [List.takeWhile_append_dropWhile]
    · rfl

/-- A piece is never empty. -/
theorem cut_ne_nil (c : Char) (s : List Char) : (cut c s).1.chars ≠ [] := by
  unfold cut
  split
  · exact List.cons_ne_nil _ _
  split
  · exact List.cons_ne_nil _ _
  split
  · exact List.cons_ne_nil _ _
  split
  · exact List.cons_ne_nil _ _
  split
  · next h => exact Literal.chars_ne_nil_of_read h
  · split
    · exact List.cons_ne_nil _ _
    · exact List.cons_ne_nil _ _

/-- The text gets shorter with every piece. -/
theorem length_cut_lt (c : Char) (s : List Char) : (cut c s).2.length < (c :: s).length := by
  have hne := List.length_pos_iff.2 (cut_ne_nil c s)
  rw [← cut_append c s, List.length_append]
  omega

/-- The pieces of a text, in order. -/
def pieces : List Char → List Piece
  | [] => []
  | c :: s => (cut c s).1 :: pieces (cut c s).2
termination_by s => s.length
decreasing_by exact length_cut_lt c s

/-- The pieces of a text, joined, are the text. -/
theorem flatMap_pieces (s : List Char) : (pieces s).flatMap Piece.chars = s := by
  fun_induction pieces s with
  | case1 => rfl
  | case2 c s ih => rw [List.flatMap_cons, ih, cut_append]

/-! ## Tokens -/

/-- The kind of token that a piece becomes; blanks become none. -/
def kind? (p : Piece) : Option Token.Kind :=
  match p.form with
  | .openParen => some .openParen
  | .closeParen => some .closeParen
  | .operator => some .operator
  | .word => some (if Token.isVariableName p.chars then .var else .unrecognized)
  | .number => some .number
  | .blank => none
  | .other => some .unrecognized

/-- The token that a piece becomes. -/
def token? (p : Piece) : Option Token :=
  p.kind?.map fun k => ⟨k, String.ofList p.chars⟩

end Piece

/-- The tokens of a sequence of characters. -/
def scanChars (s : List Char) : List Token :=
  (Piece.pieces s).filterMap Piece.token?

/-- The tokens of a text, in the order in which they stand in it. -/
def scan (text : String) : List Token :=
  scanChars text.toList

end Formulary
