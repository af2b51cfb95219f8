/-!
# Trimming

A text without the characters of some class at either end: the margin around a number, or the zeros
around its digits. What stands between the first and the last character outside the class is kept as
it is.
-/

set_option autoImplicit false

namespace Formulary.Text

/-- The text without the characters of the class `p` at either end. -/
def trim (p : Char → Bool) (s : List Char) : List Char :=
  ((s.dropWhile p).reverse.dropWhile p).reverse

/-- A text without characters of the class is not changed. -/
theorem trim_eq_self {p : Char → Bool} {s : List Char} (h : ∀ c ∈ s, p c = false) :
    trim p s = s := by
  have keep : ∀ t : List Char, (∀ c ∈ t, p c = false) → t.dropWhile p = t := by
    intro t ht
    cases t with
    | nil => rfl
    | cons c t => exact List.dropWhile_cons_of_neg (by simp [ht c (by simp)])
  have back : ∀ c ∈ s.reverse, p c = false := fun c hc => h c (List.mem_reverse.1 hc)
  rw [trim, keep s h, keep s.reverse back, List.reverse_reverse]

end Formulary.Text
