/-!
# Names bound to things

A small store of things by name, in the order in which the names first came. A name that is bound
again keeps its place and changes what it is bound to.
-/

set_option autoImplicit false

namespace Formulary

/-- Things with names. -/
abbrev Bindings (α : Type) :=
  List (String × α)

namespace Bindings

variable {α : Type}

/-- What a name is bound to. -/
def get? (b : Bindings α) (name : String) : Option α :=
  List.lookup name b

/-- Bind a name, in place if it is bound already. -/
def put (name : String) (a : α) : Bindings α → Bindings α
  | [] => [(name, a)]
  | (n, x) :: rest => if n = name then (n, a) :: rest else (n, x) :: put name a rest

/-- Forget a name. -/
def erase (name : String) (b : Bindings α) : Bindings α :=
  b.filter fun p => p.1 != name

/-- The bindings that a list of pairs makes, one after the other. -/
def ofPairs (pairs : List (String × α)) : Bindings α :=
  pairs.foldl (fun b p => put p.1 p.2 b) []

/-! ## What a name is bound to afterwards -/

@[simp] theorem get?_nil (name : String) : get? ([] : Bindings α) name = none :=
  rfl

theorem get?_cons (n name : String) (x : α) (b : Bindings α) :
    get? ((n, x) :: b) name = if n = name then some x else get? b name := by
  by_cases h : n = name
  · simp [get?, h]
  · have hne : (name == n) = false := by simpa using Ne.symm h
    simp [get?, List.lookup_cons, h, hne]

/-- Binding a name sets it and leaves every other name alone. -/
theorem get?_put (b : Bindings α) (name other : String) (a : α) :
    get? (put name a b) other = if name = other then some a else get? b other := by
  induction b with
  | nil => rw [put, get?_cons]
  | cons p rest ih =>
    obtain ⟨n, x⟩ := p
    rw [put]
    split
    · next h =>
      subst h
      rw [get?_cons, get?_cons]
      split <;> rfl
    · next h =>
      rw [get?_cons, get?_cons, ih]
      by_cases hn : n = other
      · have : name ≠ other := fun e => h (hn.trans e.symm)
        simp [hn, this]
      · simp [hn]

/-- Forgetting a name unbinds it and leaves every other name alone. -/
theorem get?_erase (b : Bindings α) (name other : String) :
    get? (erase name b) other = if name = other then none else get? b other := by
  induction b with
  | nil => simp [erase]
  | cons p rest ih =>
    obtain ⟨n, x⟩ := p
    by_cases hn : n = name
    · subst hn
      have : erase n ((n, x) :: rest) = erase n rest := by simp [erase]
      rw [this, ih, get?_cons]
      split <;> rfl
    · have : erase name ((n, x) :: rest) = (n, x) :: erase name rest := by simp [erase, hn]
      rw [this, get?_cons, ih, get?_cons]
      by_cases ho : n = other
      · have : name ≠ other := fun e => hn (ho.trans e.symm)
        simp [ho, this]
      · simp [ho]

end Bindings

end Formulary
