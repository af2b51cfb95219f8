import Formulary.Number.Decimal

/-!
# Numeric literals

A literal is written as digits, a point and more digits, with at least one digit on either side of
the point, the point and what follows it being optional; then comes an optional exponent, a mark
(`e` or `E`), an optional sign and at least one digit. It has no sign of its own: in a formula a
leading `-` is an operator.

`Literal` holds the parts as they are written, so that a literal has exactly one text, `chars`.
`Literal.read` takes the longest literal from the front of a text. An exponent mark that is not
followed by digits does not belong to the literal (`3e+` is the literal `3` and two more
characters), which is the only place where reading looks ahead.

The main facts here are that reading splits the text it is given (`chars_append_of_read`) and takes
something (`chars_ne_nil_of_read`); the scanner of formulas ends because of the two.
-/

set_option autoImplicit false

namespace Formulary

/-- The written exponent of a literal. -/
structure Literal.Scale where
  /-- The letter that announces the exponent. -/
  mark : Char
  sign : Option Char
  digits : List Char
deriving DecidableEq, Repr

/-- A numeric literal in the parts it is written in. -/
structure Literal where
  /-- The digits before the point. -/
  whole : List Char
  /-- The digits after the point, if a point is written. -/
  fraction : Option (List Char)
  scale : Option Literal.Scale
deriving DecidableEq, Repr

namespace Literal

/-! ## Text of a literal -/

/-- The exponent as it is written. -/
def Scale.chars (e : Scale) : List Char :=
  e.mark :: (e.sign.toList ++ e.digits)

/-- The literal as it is written. -/
def chars (l : Literal) : List Char :=
  l.whole ++ (l.fraction.elim [] ('.' :: ·) ++ l.scale.elim [] Scale.chars)

/-! ## Value of a literal -/

/-- The power of ten that an exponent stands for. -/
def Scale.value (e : Scale) : Int :=
  if e.sign = some '-' then -(natOfDigits e.digits : Int) else natOfDigits e.digits

/-- The exact value: all digits read as one number, scaled by the exponent less the number of digits
after the point. -/
def value (l : Literal) : Decimal where
  coefficient := natOfDigits (l.whole ++ l.fraction.getD [])
  exponent := l.scale.elim 0 Scale.value - ((l.fraction.getD []).length : Int)

/-! ## Reading -/

/-- The letters that announce an exponent. -/
def isMark (c : Char) : Bool :=
  c == 'e' || c == 'E'

/-- The signs an exponent may carry. -/
def isSign (c : Char) : Bool :=
  c == '+' || c == '-'

/-- An exponent's digits, once its mark and sign are known, and what follows them. -/
def Scale.finish (mark : Char) (sign : Option Char) (s : List Char) : Option (Scale × List Char) :=
  if (s.takeWhile Char.isDigit).isEmpty then none
  else some (⟨mark, sign, s.takeWhile Char.isDigit⟩, s.dropWhile Char.isDigit)

/-- The exponent at the front of a text, if there is a complete one. -/
def Scale.read : List Char → Option (Scale × List Char)
  | m :: c :: s =>
    if isMark m then
      if isSign c then Scale.finish m (some c) s else Scale.finish m none (c :: s)
    else none
  | _ => none

/-- A literal whose digits are known, with the exponent that may follow them. -/
def withScale (whole : List Char) (fraction : Option (List Char)) (s : List Char) :
    Literal × List Char :=
  match Scale.read s with
  | some (e, rest) => (⟨whole, fraction, some e⟩, rest)
  | none => (⟨whole, fraction, none⟩, s)

/-- The longest literal at the front of a text, and the text after it. -/
def read (s : List Char) : Option (Literal × List Char) :=
  match s.dropWhile Char.isDigit with
  | '.' :: t =>
    if (s.takeWhile Char.isDigit).isEmpty && (t.takeWhile Char.isDigit).isEmpty then none
    else some (withScale (s.takeWhile Char.isDigit) (some (t.takeWhile Char.isDigit))
      (t.dropWhile Char.isDigit))
  | t =>
    if (s.takeWhile Char.isDigit).isEmpty then none
    else some (withScale (s.takeWhile Char.isDigit) none t)

/-- The literal that the whole text writes, if it writes one. -/
def ofChars? (s : List Char) : Option Literal :=
  match read s with
  | some (l, []) => some l
  | _ => none

/-! ## Reading splits the text -/

theorem Scale.chars_append_of_finish {mark : Char} {sign : Option Char} {s : List Char} {e : Scale}
    {rest : List Char} (h : Scale.finish mark sign s = some (e, rest)) :
    e.chars ++ rest = mark :: (sign.toList ++ s) := by
  unfold Scale.finish at h
  split at h
  · exact absurd h (by simp)
  · simp only [Option.some.injEq, Prod.mk.injEq] at h
    obtain ⟨rfl, rfl⟩ := h
    simp [Scale.chars, List.append_assoc, List.takeWhile_append_dropWhile]

theorem Scale.chars_append_of_read {s : List Char} {e : Scale} {rest : List Char}
    (h : Scale.read s = some (e, rest)) : e.chars ++ rest = s := by
  unfold Scale.read at h
  split at h
  · split at h
    · split at h
      · simpa using Scale.chars_append_of_finish h
      · simpa using Scale.chars_append_of_finish h
    · exact absurd h (by simp)
  · exact absurd h (by simp)

theorem chars_append_withScale (whole : List Char) (fraction : Option (List Char))
    (s : List Char) :
    (withScale whole fraction s).1.chars ++ (withScale whole fraction s).2 =
      whole ++ (fraction.elim [] ('.' :: ·) ++ s) := by
  unfold withScale
  split
  · next e rest h => simp [chars, List.append_assoc, Scale.chars_append_of_read h]
  · simp [chars]

/-- The literal read and the rest are the text, cut in two. -/
theorem chars_append_of_read {s : List Char} {l : Literal} {rest : List Char}
    (h : read s = some (l, rest)) : l.chars ++ rest = s := by
  unfold read at h
  have split_s := List.takeWhile_append_dropWhile (p := Char.isDigit) (l := s)
  split at h
  · next t ht =>
    split at h
    · exact absurd h (by simp)
    · simp only [Option.some.injEq] at h
      have := chars_append_withScale (s.takeWhile Char.isDigit)
        (some (t.takeWhile Char.isDigit)) (t.dropWhile Char.isDigit)
      rw [h] at this
      rw [ht] at split_s
      simpa [split_s] using this
  · split at h
    · exact absurd h (by simp)
    · simp only [Option.some.injEq] at h
      have := chars_append_withScale (s.takeWhile Char.isDigit) none (s.dropWhile Char.isDigit)
      rw [h] at this
      rw [this]
      simp

theorem whole_withScale (whole : List Char) (fraction : Option (List Char)) (s : List Char) :
    (withScale whole fraction s).1.whole = whole ∧
      (withScale whole fraction s).1.fraction = fraction := by
  unfold withScale
  split <;> exact ⟨rfl, rfl⟩

/-- A literal that was read has at least one character. -/
theorem chars_ne_nil_of_read {s : List Char} {l : Literal} {rest : List Char}
    (h : read s = some (l, rest)) : l.chars ≠ [] := by
  unfold read at h
  split at h
  · next t _ =>
    split at h
    · exact absurd h (by simp)
    · simp only [Option.some.injEq] at h
      have hf := (whole_withScale (s.takeWhile Char.isDigit) (some (t.takeWhile Char.isDigit))
        (t.dropWhile Char.isDigit)).2
      rw [h] at hf
      change l.fraction = _ at hf
      simp [chars, hf]
  · split at h
    · exact absurd h (by simp)
    · next hw =>
      simp only [Option.some.injEq] at h
      have hl := (whole_withScale (s.takeWhile Char.isDigit) none (s.dropWhile Char.isDigit)).1
      rw [h] at hl
      change l.whole = _ at hl
      simp only [List.isEmpty_iff] at hw
      simp [chars, hl, hw]

end Literal

end Formulary
