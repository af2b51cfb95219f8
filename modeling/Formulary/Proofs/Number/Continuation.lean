import Formulary.Proofs.Number.Literal

/-!
# What follows a literal

`read_append` is about a text that nothing goes on with. Here anything may follow.

A literal at the front of a text may go on: more digits may follow, a point, an exponent. What is read is
then longer, and never shorter (`exists_read_of_prefix`): no literal at the front of the text has more
characters than the one that is read, although reading decides for or against the point and the exponent
once and does not go back.

Some characters no literal goes on with, finished or not: not even an exponent that lacks its digits could
make use of them (`Text.Divides`). Reading in front of such a character is reading at the end of the text
(`read_append_cons`).
-/

set_option autoImplicit false

namespace Formulary

/-! ## Runs of characters -/

namespace Text

/-- No literal and no name has the character in it. -/
structure Divides (c : Char) : Prop where
  apart : c.isAlphanum = false
  point : c ≠ '.'
  sign : Literal.isSign c = false

/-- What was taken from a text, and the rest of the text with more behind it. -/
def followedBy {α : Type} (t : List Char) (front : α × List Char) : α × List Char :=
  (front.1, front.2 ++ t)

variable {p : Char → Bool} {c : Char}

theorem takeWhile_append_cons (stop : p c = false) (s t : List Char) :
    (s ++ c :: t).takeWhile p = s.takeWhile p := by
  induction s with
  | nil => simp [stop]
  | cons d s ih => simp only [List.cons_append, List.takeWhile_cons, ih]

theorem dropWhile_append_cons (stop : p c = false) (s t : List Char) :
    (s ++ c :: t).dropWhile p = s.dropWhile p ++ c :: t := by
  induction s with
  | nil => simp [stop]
  | cons d s ih =>
    simp only [List.cons_append, List.dropWhile_cons, ih]
    split
    · rfl
    · rfl

theorem length_le_takeWhile {v s : List Char} (all : ∀ c ∈ v, p c = true) (front : v <+: s) :
    v.length ≤ (s.takeWhile p).length := by
  obtain ⟨t, rfl⟩ := front
  rw [List.takeWhile_append_of_pos all, List.length_append]
  exact Nat.le_add_right _ _

theorem Divides.isDigit (h : Divides c) : c.isDigit = false :=
  (Bool.or_eq_false_iff.mp h.apart).2

theorem Divides.isMark (h : Divides c) : Literal.isMark c = false := by
  rw [← Bool.not_eq_true]
  intro mark
  exact absurd (Literal.isAlphanum_of_isMark mark) (by simp [h.apart])

end Text

namespace Literal

/-! ## The longest literal -/

theorem length_chars (l : Literal) :
    l.chars.length = l.whole.length + ((l.fraction.elim [] ('.' :: ·)).length +
      (l.scale.elim [] Scale.chars).length) := by
  simp [chars]

theorem Scale.dropWhile_chars_append {e : Scale} (h : e.WellFormed) (t : List Char) :
    (e.chars ++ t).dropWhile Char.isDigit = e.chars ++ t :=
  List.dropWhile_cons_of_neg (by simp [isDigit_of_isMark h.mark])

/-- What is read has the digits that were taken, and at least the exponent that is there. -/
theorem le_length_withScale {scale : Option Scale} (h : ∀ e ∈ scale, e.WellFormed)
    (whole : List Char) (fraction : Option (List Char)) (t : List Char) :
    whole.length + ((fraction.elim [] ('.' :: ·)).length + (scale.elim [] Scale.chars).length) ≤
      (withScale whole fraction
        ((scale.elim [] Scale.chars ++ t).dropWhile Char.isDigit)).1.chars.length := by
  obtain ⟨same_whole, same_fraction⟩ := whole_withScale whole fraction
    ((scale.elim [] Scale.chars ++ t).dropWhile Char.isDigit)
  rw [length_chars, same_whole, same_fraction]
  cases scale with
  | none =>
    rw [Option.elim_none, List.length_nil]
    omega
  | some e =>
    simp only [Option.elim_some, Scale.dropWhile_chars_append (h e rfl), withScale,
      Scale.read_chars_append (h e rfl)]
    simp only [Scale.chars, List.length_cons, List.length_append]
    omega

/-- No literal at the front of a text is longer than the one that is read. -/
theorem exists_read_of_prefix {l : Literal} (h : l.WellFormed) {s : List Char}
    (start : l.chars <+: s) :
    ∃ front, read s = some front ∧ l.chars.length ≤ front.1.chars.length := by
  obtain ⟨t, rfl⟩ := start
  obtain ⟨whole, fraction, scale⟩ := l
  have scaled := fun whole fraction => le_length_withScale h.scale whole fraction t
  have hne := h.ne_nil
  -- digits in front of the exponent, or of the rest, go on with what is there
  have take : ∀ ds : List Char, (∀ c ∈ ds, c.isDigit = true) →
      (ds ++ (scale.elim [] Scale.chars ++ t)).takeWhile Char.isDigit =
        ds ++ (scale.elim [] Scale.chars ++ t).takeWhile Char.isDigit :=
    fun ds hds => List.takeWhile_append_of_pos hds
  have drop : ∀ ds : List Char, (∀ c ∈ ds, c.isDigit = true) →
      (ds ++ (scale.elim [] Scale.chars ++ t)).dropWhile Char.isDigit =
        (scale.elim [] Scale.chars ++ t).dropWhile Char.isDigit :=
    fun ds hds => List.dropWhile_append_of_pos hds
  rw [length_chars]
  cases fraction with
  | none =>
    have chars : chars ⟨whole, none, scale⟩ ++ t = whole ++ (scale.elim [] Scale.chars ++ t) := by
      simp [Literal.chars, List.append_assoc]
    have take := take whole h.whole
    have drop := drop whole h.whole
    have hw : whole ≠ [] := by simpa using hne
    by_cases point : ∃ u, (scale.elim [] Scale.chars ++ t).dropWhile Char.isDigit = '.' :: u
    · obtain ⟨u, hu⟩ := point
      cases scale with
      | some e =>
        -- an exponent would have ended the digits in front of the point
        rw [Option.elim_some, Scale.dropWhile_chars_append (h.scale e rfl)] at hu
        have mark := (h.scale e rfl).mark
        rw [(List.cons.inj hu).1] at mark
        exact absurd mark (by decide)
      | none =>
        rw [chars, read_point (drop.trans hu), take, if_neg (by simp [hw])]
        refine ⟨_, rfl, ?_⟩
        rw [length_chars, (whole_withScale _ _ _).1]
        simp
        omega
    · have no_point : ∀ u, (whole ++ (scale.elim [] Scale.chars ++ t)).dropWhile Char.isDigit ≠
          '.' :: u := by
        rw [drop]
        exact not_exists.mp point
      rw [chars, read_whole no_point, take, drop, if_neg (by simp [hw])]
      refine ⟨_, rfl, Nat.le_trans ?_ (scaled _ _)⟩
      simp
  | some f =>
    have chars : chars ⟨whole, some f, scale⟩ ++ t =
        whole ++ '.' :: (f ++ (scale.elim [] Scale.chars ++ t)) := by
      simp [Literal.chars, List.append_assoc]
    have point : ∀ c ∈ ('.' :: (f ++ (scale.elim [] Scale.chars ++ t))).head?,
        c.isDigit = false := by
      intro c hc
      obtain rfl : '.' = c := by simpa using hc
      decide
    have takeWhole := Text.takeWhile_append h.whole point
    have dropWhole := Text.dropWhile_append h.whole point
    rw [chars, read_point dropWhole, takeWhole, take f (h.fraction f rfl), drop f (h.fraction f rfl),
      if_neg]
    · refine ⟨_, rfl, Nat.le_trans ?_ (scaled _ _)⟩
      simp
    · intro empty
      simp at empty hne
      exact hne empty.1 empty.2.1

/-! ## In front of a character that no literal has -/

open Text (followedBy)

variable {c : Char}

theorem Scale.finish_append_cons (h : Text.Divides c) (mark : Char) (sign : Option Char)
    (s t : List Char) :
    Scale.finish mark sign (s ++ c :: t) =
      (Scale.finish mark sign s).map (followedBy (c :: t)) := by
  rw [Scale.finish, Scale.finish, Text.takeWhile_append_cons h.isDigit,
    Text.dropWhile_append_cons h.isDigit]
  split
  · rfl
  · rfl

theorem Scale.read_append_cons (h : Text.Divides c) (s t : List Char) :
    Scale.read (s ++ c :: t) = (Scale.read s).map (followedBy (c :: t)) := by
  match s with
  | [] =>
    cases t with
    | nil => rfl
    | cons d t => simp [Scale.read, h.isMark]
  | [m] =>
    -- an exponent that ends with its mark finds neither sign nor digit behind it
    have unfinished : Scale.finish m none (c :: t) = none := Scale.finish_append_cons h m none [] t
    simp [Scale.read, h.sign, unfinished]
  | m :: d :: s =>
    simp only [List.cons_append, Scale.read]
    split
    · split
      · exact Scale.finish_append_cons h m (some d) s t
      · exact Scale.finish_append_cons h m none (d :: s) t
    · rfl

theorem withScale_append_cons (h : Text.Divides c) (whole : List Char)
    (fraction : Option (List Char)) (s t : List Char) :
    withScale whole fraction (s ++ c :: t) = followedBy (c :: t) (withScale whole fraction s) := by
  rw [withScale, withScale, Scale.read_append_cons h]
  cases Scale.read s with
  | none => rfl
  | some e => rfl

/-- The same literal is read, and the text behind it is left. -/
theorem read_append_cons (h : Text.Divides c) (s t : List Char) :
    read (s ++ c :: t) = (read s).map (followedBy (c :: t)) := by
  have take := Text.takeWhile_append_cons h.isDigit
  have drop := Text.dropWhile_append_cons h.isDigit s t
  by_cases point : ∃ u, s.dropWhile Char.isDigit = '.' :: u
  · obtain ⟨u, hu⟩ := point
    rw [hu, List.cons_append] at drop
    rw [read_point drop, read_point hu, take, take, Text.dropWhile_append_cons h.isDigit]
    split
    · rfl
    · rw [withScale_append_cons h]
      rfl
  · have no_point : ∀ u, (s ++ c :: t).dropWhile Char.isDigit ≠ '.' :: u := by
      intro u hu
      rw [drop] at hu
      cases rest : s.dropWhile Char.isDigit with
      | nil =>
        rw [rest] at hu
        exact h.point (List.cons.inj hu).1
      | cons d v =>
        rw [rest] at hu
        exact point ⟨v, by rw [rest, (List.cons.inj hu).1]⟩
    rw [read_whole no_point, read_whole (not_exists.mp point), take, drop]
    split
    · rfl
    · rw [withScale_append_cons h]
      rfl

end Literal

end Formulary
