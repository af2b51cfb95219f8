import Formulary.Proofs.Token.Segments

/-!
# Scanning is local

A character that no literal and no name has in it (`Text.Divides`) divides a text for scanning: the tokens
are those in front of it, its own, and those behind it (`scan_append_divider`). Whatever ends in front of
such a character, complete or not, ends there as it would at the end of the text (`Piece.cut_append_cons`).

Blanks are the one exception, as a run of them goes on over a blank. But blanks become no tokens, so the run
is not missed.
-/

set_option autoImplicit false

namespace Formulary

open Text (followedBy)

variable {c : Char}

namespace Piece

/-! ## Pieces -/

/-- In front of a dividing character the same piece is cut off as at the end, unless it is blank. -/
theorem cut_append_cons (h : Text.Divides c) {d : Char} {s : List Char}
    (visible : (cut d s).1.form ≠ .blank) (t : List Char) :
    cut d (s ++ c :: t) = followedBy (c :: t) (cut d s) := by
  cases single : isSingle d with
  | true =>
    obtain ⟨form, hcut⟩ := exists_cut_single single
    rw [hcut, hcut]
    rfl
  | false =>
    have read := Literal.read_append_cons h (d :: s) t
    rw [List.cons_append] at read
    rw [cut_of_not_isSingle single] at visible
    rw [cut_of_not_isSingle single, cut_of_not_isSingle single, read,
      Text.takeWhile_append_cons h.apart, Text.dropWhile_append_cons h.apart]
    by_cases alpha : d.isAlpha = true
    · rw [if_pos alpha, if_pos alpha]
      rfl
    · rw [if_neg alpha] at visible
      rw [if_neg alpha, if_neg alpha]
      cases found : Literal.read (d :: s) with
      | some front => rfl
      | none =>
        rw [found] at visible
        by_cases blank : Text.isBlank d = true
        · simp [blank] at visible
        · simp [blank, followedBy]

/-- A dividing character is cut off by itself, unless it begins a run of blanks. -/
theorem exists_cut_divider (h : Text.Divides c) (visible : Text.isBlank c = false) :
    ∃ p : Piece, ∀ t, cut c t = (p, t) := by
  cases single : isSingle c with
  | true =>
    obtain ⟨form, hcut⟩ := exists_cut_single single
    exact ⟨_, hcut⟩
  | false =>
    have alpha : ¬ c.isAlpha = true := by simp [(Bool.or_eq_false_iff.mp h.apart).1]
    refine ⟨⟨.other, [c]⟩, fun t => ?_⟩
    rw [cut_of_not_isSingle single, if_neg alpha, Literal.read_cons_eq_none h.isDigit h.point]
    simp [visible]

end Piece

/-! ## Tokens -/

theorem scanChars_append_cons (h : Text.Divides c) (s t : List Char) :
    scanChars (s ++ c :: t) = scanChars s ++ scanChars (c :: t) := by
  induction s using Piece.pieces.induct with
  | case1 => rw [scanChars_nil, List.nil_append, List.nil_append]
  | case2 d s ih =>
    have whole := Piece.cut_append d s
    by_cases blank : (Piece.cut d s).1.form = .blank
    · have gap : ∀ e ∈ (Piece.cut d s).1.chars, Text.isBlank e = true := by
        intro e he
        rw [Piece.isBlank_of_mem_cut d s e he]
        exact decide_eq_true blank
      rw [← whole, List.append_assoc, scanChars_append_of_isBlank gap, ih,
        scanChars_append_of_isBlank gap]
    · rw [List.cons_append, scanChars_cons, Piece.cut_append_cons h blank, scanChars_cons d s,
        List.append_assoc, ← ih]
      rfl

theorem scanChars_divider (h : Text.Divides c) (t : List Char) :
    scanChars (c :: t) = scanChars [c] ++ scanChars t := by
  cases blank : Text.isBlank c with
  | true =>
    have gap : ∀ d ∈ [c], Text.isBlank d = true := by simp [blank]
    have dropped := scanChars_append_of_isBlank gap []
    rw [List.append_nil, scanChars_nil] at dropped
    rw [dropped, List.nil_append, ← List.singleton_append, scanChars_append_of_isBlank gap]
  | false =>
    obtain ⟨p, hcut⟩ := Piece.exists_cut_divider h blank
    rw [scanChars_cons c t, scanChars_cons c [], hcut, hcut, scanChars_nil, List.append_nil]

/-- A character that is no ASCII letter, no ASCII digit, no point and no sign divides a text: what stands in
front of it is scanned as if the text ended there, and what stands behind it as if the text began there.
Between the two stand the tokens of the character alone, and it has some unless it is a blank. -/
theorem scan_append_divider {c : Char} (apart : c.isAlphanum = false) (point : c ≠ '.')
    (plus : c ≠ '+') (minus : c ≠ '-') (s t : String) :
    scan (s ++ String.singleton c ++ t) = scan s ++ scan (String.singleton c) ++ scan t ∧
      (scan (String.singleton c) = [] ↔ Text.isBlank c = true) := by
  have h : Text.Divides c := ⟨apart, point, by simp [Literal.isSign, plus, minus]⟩
  constructor
  · simp only [scan, String.toList_append, String.toList_singleton, List.append_assoc,
      List.singleton_append]
    rw [scanChars_append_cons h, scanChars_divider h]
  · rw [scan_eq_nil_iff]
    simp

/-- In front of the asterisk an exponent lacks its digits, and behind it stands a malformed name. -/
theorem scan_append_divider_exponent :
    ('*').isAlphanum = false ∧ '*' ≠ '.' ∧ '*' ≠ '+' ∧ '*' ≠ '-' ∧
      scan ("x1-2.5e+" ++ String.singleton '*' ++ "7y1z") =
        [⟨.var, "x1"⟩, ⟨.operator, "-"⟩, ⟨.number, "2.5"⟩, ⟨.unrecognized, "e"⟩, ⟨.operator, "+"⟩,
          ⟨.operator, "*"⟩, ⟨.number, "7"⟩, ⟨.unrecognized, "y1z"⟩] := by
  have front : scan "x1-2.5e+" = [⟨.var, "x1"⟩, ⟨.operator, "-"⟩, ⟨.number, "2.5"⟩,
      ⟨.unrecognized, "e"⟩, ⟨.operator, "+"⟩] := by
    decide +kernel
  have own : scan (String.singleton '*') = [⟨.operator, "*"⟩] := by decide +kernel
  have back : scan "7y1z" = [⟨.number, "7"⟩, ⟨.unrecognized, "y1z"⟩] := by decide +kernel
  have apart : ('*').isAlphanum = false := by decide
  have divided := (scan_append_divider apart (by decide) (by decide) (by decide) "x1-2.5e+" "7y1z").1
  rw [front, own, back] at divided
  exact ⟨apart, by decide, by decide, by decide, divided⟩

end Formulary
