/-!
# Blank characters

A formula may be spaced freely, and what counts as space is a property of characters, not of
formulas. The property is the white space of Unicode together with the four information separators
`1C` to `1F`; it is kept as a table of ranges of code points so that a reader can check it line by
line, and so that membership is a comparison of numbers.

The characters that are often taken for blanks and are none (the zero width space `200B`, the
Mongolian vowel separator `180E`, the Braille blank `2800`) are simply not in the table.
-/

set_option autoImplicit false

namespace Formulary.Text

/-- The blanks as ranges of code points, both ends included, in increasing order. -/
def blankRanges : List (Nat × Nat) :=
  [(0x09, 0x0D), (0x1C, 0x20), (0x85, 0x85), (0xA0, 0xA0), (0x1680, 0x1680), (0x2000, 0x200A),
    (0x2028, 0x2029), (0x202F, 0x202F), (0x205F, 0x205F), (0x3000, 0x3000)]

/-- Some range of the table holds the code point `n`. -/
def inRanges (ranges : List (Nat × Nat)) (n : Nat) : Bool :=
  ranges.any fun r => r.1 ≤ n && n ≤ r.2

/-- The character only separates what stands around it. -/
def isBlank (c : Char) : Bool :=
  inRanges blankRanges c.toNat

/-- The information separators `1C` to `1F` are blanks inside a formula, but no margin of a number. -/
def isSeparator (c : Char) : Bool :=
  inRanges [(0x1C, 0x1F)] c.toNat

/-! ## The table against the classes of characters that formulas are made of -/

/-- Membership in the table, written out. -/
theorem isBlank_iff (c : Char) :
    isBlank c = true ↔
      (0x09 ≤ c.toNat ∧ c.toNat ≤ 0x0D) ∨ (0x1C ≤ c.toNat ∧ c.toNat ≤ 0x20) ∨ c.toNat = 0x85 ∨
        c.toNat = 0xA0 ∨ c.toNat = 0x1680 ∨ (0x2000 ≤ c.toNat ∧ c.toNat ≤ 0x200A) ∨
        (0x2028 ≤ c.toNat ∧ c.toNat ≤ 0x2029) ∨ c.toNat = 0x202F ∨ c.toNat = 0x205F ∨
        c.toNat = 0x3000 := by
  simp only [isBlank, inRanges, blankRanges, List.any_cons, List.any_nil, Bool.or_false,
    Bool.or_eq_true, Bool.and_eq_true, decide_eq_true_eq]
  omega

theorem isAlpha_iff (c : Char) :
    c.isAlpha = true ↔ (0x41 ≤ c.toNat ∧ c.toNat ≤ 0x5A) ∨ (0x61 ≤ c.toNat ∧ c.toNat ≤ 0x7A) := by
  have upper : c.isUpper = decide (0x41 ≤ c.toNat ∧ c.toNat ≤ 0x5A) := rfl
  have lower : c.isLower = (decide (0x61 ≤ c.toNat) && decide (c.toNat ≤ 0x7A)) := rfl
  have both : c.isAlpha = (c.isUpper || c.isLower) := rfl
  rw [both, upper, lower, Bool.or_eq_true, decide_eq_true_eq, Bool.and_eq_true, decide_eq_true_eq,
    decide_eq_true_eq]

theorem isAlpha_of_isDigit {c : Char} (h : c.isDigit = true) : c.isAlpha = false := by
  have range : 0x30 ≤ c.toNat ∧ c.toNat ≤ 0x39 := Char.isDigit_iff_toNat.mp h
  rw [← Bool.not_eq_true, isAlpha_iff]
  omega

theorem toNat_lt_of_isAlphanum {c : Char} (h : c.isAlphanum = true) : c.toNat < 0x80 := by
  have digit : c.isDigit = true ↔ 0x30 ≤ c.toNat ∧ c.toNat ≤ 0x39 := Char.isDigit_iff_toNat
  rw [Char.isAlphanum, Bool.or_eq_true, isAlpha_iff, digit] at h
  omega

/-- No blank is a letter or a digit. -/
theorem isAlphanum_of_isBlank {c : Char} (h : isBlank c = true) : c.isAlphanum = false := by
  have table := (isBlank_iff c).mp h
  have digit : c.isDigit = true ↔ 0x30 ≤ c.toNat ∧ c.toNat ≤ 0x39 := Char.isDigit_iff_toNat
  rw [← Bool.not_eq_true, Char.isAlphanum, Bool.or_eq_true, isAlpha_iff, digit]
  omega

theorem isBlank_of_isAlphanum {c : Char} (h : c.isAlphanum = true) : isBlank c = false := by
  rw [← Bool.not_eq_true]
  intro blank
  exact Bool.false_ne_true ((isAlphanum_of_isBlank blank).symm.trans h)

end Formulary.Text
