import Formulary.Proofs.Number.Literal
import Formulary.Text.Blank
import Mathlib

/-!
# Characters and their capitals

Writing a text in capitals exchanges letters for letters and leaves every other character alone. A class
without letters does not see the difference (`apply_toUpper`). Neither do the classes of the scanner that
have letters in them, because they hold both cases of each.

The laws of `Char.toUpper` and `Char.toLower` that this rests on belong to no module of Mathlib. They come
with the library as a whole, which is why it is imported here.
-/

set_option autoImplicit false

namespace Formulary.Text

theorem toUpper_of_not_isAlpha {c : Char} (h : c.isAlpha = false) : c.toUpper = c := by
  refine Char.toUpper_eq_of_not_isLower fun lower => ?_
  rw [Char.isAlpha, lower, Bool.or_true] at h
  exact Bool.noConfusion h

/-- A class without letters holds a capital exactly when it holds the character itself. -/
theorem apply_toUpper {p : Char → Bool} (none : ∀ c, p c = true → c.isAlpha = false) (c : Char) :
    p c.toUpper = p c := by
  cases h : c.isAlpha with
  | false => rw [toUpper_of_not_isAlpha h]
  | true =>
    have missing : ∀ d, d.isAlpha = true → p d = false := by
      intro d letter
      rw [← Bool.not_eq_true]
      intro hd
      exact Bool.false_ne_true ((none d hd).symm.trans letter)
    rw [missing c h, missing c.toUpper (by rw [Char.isAlpha_toUpper_eq_isAlpha, h])]

@[simp] theorem isDigit_toUpper (c : Char) : c.toUpper.isDigit = c.isDigit :=
  apply_toUpper (fun _ => isAlpha_of_isDigit) c

@[simp] theorem isAlphanum_toUpper (c : Char) : c.toUpper.isAlphanum = c.isAlphanum := by
  rw [Char.isAlphanum, Char.isAlphanum, Char.isAlpha_toUpper_eq_isAlpha, isDigit_toUpper]

@[simp] theorem isBlank_toUpper (c : Char) : isBlank c.toUpper = isBlank c :=
  apply_toUpper (fun _ blank => (Bool.or_eq_false_iff.mp (isAlphanum_of_isBlank blank)).1) c

/-- A character that is no letter is the capital of itself only. -/
theorem toUpper_eq_iff {d : Char} (h : d.isAlpha = false) (c : Char) : c.toUpper = d ↔ c = d := by
  have same : (c.toUpper == d) = (c == d) :=
    apply_toUpper (p := (· == d)) (fun a ha => by rw [eq_of_beq ha, h]) c
  rw [← beq_iff_eq, same, beq_iff_eq]

theorem isMark_iff (c : Char) : Literal.isMark c = true ↔ c.toUpper = 'E' := by
  constructor
  · intro h
    rcases Literal.cases_of_isMark h with rfl | rfl
    all_goals decide
  · intro h
    by_cases lower : c.isLower = true
    · -- a small letter can be had back from its capital
      have small : c = 'e' := by
        rw [← Char.toLower_eq_of_not_isUpper (Char.not_isUpper_of_isLower lower),
          ← Char.toLower_toUpper_eq_toLower, h]
        decide
      rw [small]
      decide
    · have capital : c = 'E' := by rw [← h, Char.toUpper_eq_of_not_isLower lower]
      rw [capital]
      decide

/-- The marks of an exponent are the two cases of one letter. -/
@[simp] theorem isMark_toUpper (c : Char) : Literal.isMark c.toUpper = Literal.isMark c := by
  rw [Bool.eq_iff_iff, isMark_iff, isMark_iff, Char.toUpper_toUpper_eq_toUpper]

@[simp] theorem isSign_toUpper (c : Char) : Literal.isSign c.toUpper = Literal.isSign c := by
  refine apply_toUpper (fun a ha => ?_) c
  rcases Literal.cases_of_isSign ha with rfl | rfl
  all_goals decide

/-! ## Runs of characters -/

theorem takeWhile_map_toUpper {p : Char → Bool} (h : ∀ c, p c.toUpper = p c) (s : List Char) :
    (s.map Char.toUpper).takeWhile p = (s.takeWhile p).map Char.toUpper := by
  have same : p ∘ Char.toUpper = p := funext h
  rw [List.takeWhile_map, same]

theorem dropWhile_map_toUpper {p : Char → Bool} (h : ∀ c, p c.toUpper = p c) (s : List Char) :
    (s.map Char.toUpper).dropWhile p = (s.dropWhile p).map Char.toUpper := by
  have same : p ∘ Char.toUpper = p := funext h
  rw [List.dropWhile_map, same]

theorem map_toUpper_eq_self {s : List Char} (h : ∀ c ∈ s, c.isAlpha = false) :
    s.map Char.toUpper = s :=
  (List.map_congr_left fun c hc => toUpper_of_not_isAlpha (h c hc)).trans (List.map_id s)

theorem map_toUpper_digits {s : List Char} (h : ∀ c ∈ s, c.isDigit = true) :
    s.map Char.toUpper = s :=
  map_toUpper_eq_self fun c hc => isAlpha_of_isDigit (h c hc)

end Formulary.Text
