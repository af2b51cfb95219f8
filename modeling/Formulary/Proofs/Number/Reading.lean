import Formulary.Number.Reading
import Formulary.Proofs.Number.Literal
import Formulary.Text.Blank
import Formulary.Token

/-!
# Reading the text of a literal as a number

`Binary64.read` is more generous than the literals of a formula. On a literal none of the generosity
shows: there is no margin, no digit of another script, no underscore, no sign in front and no name, so
what is read is the double nearest to the value of the literal (`read_chars`). A minus in front of a
literal gives the double of the other sign (`read_minus_chars`).

For tokens this says that a number token of the right shape has a double, so that no token can stop its
examination (`Token.examine_eq`), which asks whether that double is finite (`Token.isSound_iff`).
-/

set_option autoImplicit false

namespace Formulary

namespace Literal

/-! ## Characters of a literal, once more -/

/-- A character of a literal is a digit, the point, one of the marks or one of the signs. -/
theorem cases_of_isLiteralChar {c : Char} (h : isLiteralChar c = true) :
    (48 ≤ c.toNat ∧ c.toNat ≤ 57) ∨ c = '.' ∨ c = 'e' ∨ c = 'E' ∨ c = '+' ∨ c = '-' := by
  simp only [isLiteralChar, isMark, isSign, Bool.or_eq_true, beq_iff_eq] at h
  rcases h with ((h | h) | h | h) | h | h
  · exact .inl (Char.isDigit_iff_toNat.mp h)
  · exact .inr (.inl h)
  · exact .inr (.inr (.inl h))
  · exact .inr (.inr (.inr (.inl h)))
  · exact .inr (.inr (.inr (.inr (.inl h))))
  · exact .inr (.inr (.inr (.inr (.inr h))))

theorem toNat_lt_of_isLiteralChar {c : Char} (h : isLiteralChar c = true) : c.toNat < 0x80 := by
  rcases cases_of_isLiteralChar h with h | rfl | rfl | rfl | rfl | rfl
  · omega
  all_goals decide

theorem isBlank_of_isLiteralChar {c : Char} (h : isLiteralChar c = true) :
    Text.isBlank c = false := by
  rw [← Bool.not_eq_true, Text.isBlank_iff]
  rcases cases_of_isLiteralChar h with h | rfl | rfl | rfl | rfl | rfl
  · omega
  all_goals decide

theorem isMargin_of_isLiteralChar {c : Char} (h : isLiteralChar c = true) :
    Binary64.isMargin c = false := by
  rw [Binary64.isMargin, isBlank_of_isLiteralChar h, Bool.false_and]

theorem ne_underscore_of_isLiteralChar {c : Char} (h : isLiteralChar c = true) : c ≠ '_' := by
  rintro rfl
  exact absurd h (by decide)

end Literal

namespace Binary64

/-! ## The steps of reading -/

theorem isGrouped_of_no_underscore {s : List Char} (h : ∀ c ∈ s, c ≠ '_') (digitBefore : Bool) :
    isGrouped digitBefore s = true := by
  induction s generalizing digitBefore with
  | nil => rfl
  | cons c s ih =>
    rw [isGrouped, if_neg (h c List.mem_cons_self)]
    exact ih (fun d hd => h d (List.mem_cons_of_mem c hd)) c.isDigit

theorem splitSign_cons {c : Char} {s : List Char} (h : c.isDigit = true ∨ c = '.') :
    splitSign (c :: s) = (false, c :: s) := by
  have minus : c ≠ '-' := by
    rintro rfl
    exact absurd h (by decide)
  have plus : c ≠ '+' := by
    rintro rfl
    exact absurd h (by decide)
  rw [splitSign, if_neg minus, if_neg plus]

theorem toLower_of_digit_or_point {c : Char} (h : c.isDigit = true ∨ c = '.') : c.toLower = c := by
  rcases h with h | rfl
  · have hn : c.toNat ≤ 57 := (Char.isDigit_iff_toNat.mp h).2
    have upper : ¬ ('A'.val ≤ c.val ∧ c.val ≤ 'Z'.val) := by
      rw [UInt32.le_iff_toNat_le]
      have hA : 'A'.val.toNat = 65 := rfl
      have hc : c.val.toNat = c.toNat := rfl
      omega
    exact dif_neg upper
  · decide

/-- A text that starts like a literal is no name of a number. -/
theorem ofUnsigned?_cons {negative : Bool} {c : Char} {s : List Char}
    (h : c.isDigit = true ∨ c = '.') :
    ofUnsigned? negative (c :: s) =
      (Literal.ofChars? (c :: s)).map fun l => l.value.toBinary64 negative := by
  have hi : c ≠ 'i' := by
    rintro rfl
    exact absurd h (by decide)
  have hn : c ≠ 'n' := by
    rintro rfl
    exact absurd h (by decide)
  have infinity : infinityNames.contains ((c :: s).map Char.toLower) = false := by
    simp [infinityNames, toLower_of_digit_or_point h, hi]
  have nan : (c :: s).map Char.toLower ≠ nanName := by
    simp [nanName, toLower_of_digit_or_point h, hn]
  rw [ofUnsigned?, infinity, if_neg Bool.false_ne_true, if_neg nan]

/-- Of characters of literals nothing is dropped or exchanged: only a sign in front is set apart. -/
theorem read_of_isLiteralChar {s : List Char} (own : ∀ c ∈ s, Literal.isLiteralChar c = true)
    {v : Binary64} (found : ofUnsigned? (splitSign s).1 (splitSign s).2 = some v) :
    read (String.ofList s) = .ok v := by
  have trimmed : Text.trim isMargin s = s :=
    Text.trim_eq_self fun c hc => Literal.isMargin_of_isLiteralChar (own c hc)
  have ascii : s.map Text.asciiDigit = s :=
    Text.map_asciiDigit_eq_self fun c hc => Literal.toNat_lt_of_isLiteralChar (own c hc)
  have plain : ∀ c ∈ s, c ≠ '_' := fun c hc =>
    Literal.ne_underscore_of_isLiteralChar (own c hc)
  have filtered : s.filter (· ≠ '_') = s :=
    List.filter_eq_self.mpr fun c hc => by simpa using plain c hc
  have whole : ofTrimmed? s = some v := by
    rw [ofTrimmed?, isGrouped_of_no_underscore plain, if_pos rfl, filtered, found]
  rw [read, String.toList_ofList, trimmed, ascii, whole]

theorem ofUnsigned?_chars {l : Literal} (h : l.WellFormed) (negative : Bool) :
    ofUnsigned? negative l.chars = some (l.value.toBinary64 negative) := by
  obtain ⟨c, s, hcs, hc⟩ := h.head?_chars
  have literal : Literal.ofChars? (c :: s) = some l :=
    Literal.ofChars?_eq_some_iff.mpr ⟨h, hcs.symm⟩
  rw [hcs, ofUnsigned?_cons hc, literal, Option.map_some]

/-- The number that a literal names. -/
theorem read_chars {l : Literal} (h : l.WellFormed) :
    read (String.ofList l.chars) = .ok (l.value.toBinary64 false) := by
  obtain ⟨c, s, hcs, hc⟩ := h.head?_chars
  have unsigned : splitSign l.chars = (false, l.chars) := by rw [hcs, splitSign_cons hc]
  apply read_of_isLiteralChar h.isLiteralChar
  rw [unsigned]
  exact ofUnsigned?_chars h false

/-- The number that a literal behind a minus names. -/
theorem read_minus_chars {l : Literal} (h : l.WellFormed) :
    read (String.ofList ('-' :: l.chars)) = .ok (l.value.toBinary64 true) := by
  have own : ∀ c ∈ '-' :: l.chars, Literal.isLiteralChar c = true :=
    List.forall_mem_cons.mpr ⟨rfl, h.isLiteralChar⟩
  apply read_of_isLiteralChar own
  exact ofUnsigned?_chars h true

end Binary64

namespace Token

/-- A number token of the right shape writes a literal. -/
theorem exists_literal {t : Token} (hk : t.kind = .number) (hs : t.hasShape = true) :
    ∃ l : Literal, l.WellFormed ∧ t.text = String.ofList l.chars := by
  unfold hasShape at hs
  rw [hk] at hs
  obtain ⟨l, hl⟩ := Option.isSome_iff_exists.mp hs
  obtain ⟨wf, hc⟩ := Literal.ofChars?_eq_some_iff.mp hl
  exact ⟨l, wf, by rw [← hc, String.ofList_toList]⟩

theorem exists_examine (t : Token) : ∃ sound, t.examine = .ok sound := by
  unfold examine
  split
  · next shape =>
    split
    · next number =>
      obtain ⟨l, wf, text⟩ := exists_literal number shape
      rw [text, Binary64.read_chars wf]
      exact ⟨_, rfl⟩
    · exact ⟨true, rfl⟩
  · exact ⟨false, rfl⟩

/-- Reading a number never stops the examination of a token. -/
theorem examine_eq (t : Token) : t.examine = .ok t.isSound := by
  obtain ⟨sound, found⟩ := t.exists_examine
  rw [isSound, found]

/-- A token is sound when it has the shape of its kind and, if it is a number, a finite double. -/
theorem isSound_iff (t : Token) :
    t.isSound = true ↔ t.hasShape = true ∧
      (t.kind = .number → ∃ v, Binary64.read t.text = .ok v ∧ v.isFinite = true) := by
  have examined : t.isSound = true ↔ t.examine = .ok true := by
    rw [examine_eq, Except.ok.injEq]
  rw [examined, examine]
  by_cases shape : t.hasShape = true
  · rw [if_pos shape, and_iff_right shape]
    cases hk : t.kind with
    | number =>
      obtain ⟨l, wf, text⟩ := exists_literal hk shape
      rw [text, Binary64.read_chars wf]
      simp [Except.map]
    | var | operator | openParen | closeParen | unrecognized => simp
  · rw [if_neg shape]
    simp [shape]

theorem hasShape_of_isSound {t : Token} (h : t.isSound = true) : t.hasShape = true :=
  ((isSound_iff t).mp h).1

end Token

end Formulary
