import Formulary.Session.Options
import Mathlib.Data.List.Forall2

/-!
# Objects of options that differ in values

Two objects of options are alike when the same names are set on them, whatever the values
(`Options.Alike`), and this is kept by all that is done to them, if it is done with the same names:
settings come to the same end on both (`Alike.update`), and what is to be given back is found on both
or on neither (`Alike.enter`).

Five names are an exception (`Options.decisiveNames`). The object works by three of them, and two check what
they are set to. Their values come out in an error, or decide which names the object has, so they have to
be the same.
-/

set_option autoImplicit false

namespace Formulary

/-- Both fail for the same reason, or both have results that `R` relates. -/
def Agree {ε α : Type} (R : α → α → Prop) (x y : Except ε α) : Prop :=
  (∃ e, x = .error e ∧ y = .error e) ∨ ∃ a b, x = .ok a ∧ y = .ok b ∧ R a b

theorem Agree.error {ε α : Type} {R : α → α → Prop} (e : ε) : Agree R (.error e) (.error e) :=
  .inl ⟨e, rfl, rfl⟩

theorem Agree.ok {ε α : Type} {R : α → α → Prop} {a b : α} (h : R a b) :
    Agree R (.ok a : Except ε α) (.ok b) :=
  .inr ⟨a, b, rfl, rfl, h⟩

namespace Bindings

/-! ## The same names -/

variable {α : Type} {R : String → α → α → Prop} {a b : Bindings α}

/-- The same names, in the same order, are bound to things that `R` relates. -/
def Alike (R : String → α → α → Prop) (a b : Bindings α) : Prop :=
  List.Forall₂ (fun p q => p.1 = q.1 ∧ R p.1 p.2 q.2) a b

theorem Alike.refl (own : ∀ name x, R name x x) (a : Bindings α) : Alike R a a :=
  List.forall₂_same.mpr fun p _ => ⟨rfl, own p.1 p.2⟩

theorem Alike.get? (h : Alike R a b) (name : String) :
    (a.get? name = none ∧ b.get? name = none) ∨
      ∃ x y, a.get? name = some x ∧ b.get? name = some y ∧ R name x y := by
  induction h with
  | nil => exact .inl ⟨rfl, rfl⟩
  | @cons p q a b related _ ih =>
    obtain ⟨n, x⟩ := p
    obtain ⟨m, y⟩ := q
    obtain ⟨rfl, related⟩ : n = m ∧ R n x y := related
    rw [get?_cons, get?_cons]
    by_cases found : n = name
    · subst found
      exact .inr ⟨x, y, if_pos rfl, if_pos rfl, related⟩
    · rw [if_neg found, if_neg found]
      exact ih

theorem Alike.put (h : Alike R a b) {name : String} {x y : α} (related : R name x y) :
    Alike R (put name x a) (put name y b) := by
  induction h with
  | nil => exact .cons ⟨rfl, related⟩ .nil
  | @cons p q a b first rest ih =>
    obtain ⟨n, x'⟩ := p
    obtain ⟨m, y'⟩ := q
    obtain ⟨rfl, first⟩ : n = m ∧ R n x' y' := first
    rw [Bindings.put, Bindings.put]
    by_cases found : n = name
    · subst found
      rw [if_pos rfl, if_pos rfl]
      exact .cons ⟨rfl, related⟩ rest
    · rw [if_neg found, if_neg found]
      exact .cons ⟨rfl, first⟩ ih

theorem Alike.erase (h : Alike R a b) (name : String) : Alike R (erase name a) (erase name b) := by
  induction h with
  | nil => exact .nil
  | @cons p q a b first _ ih =>
    have same : (p.1 != name) = (q.1 != name) := by rw [first.1]
    rw [Bindings.erase, Bindings.erase, List.filter_cons, List.filter_cons, ← same]
    split
    · exact .cons first ih
    · exact ih

theorem Alike.any_name (h : Alike R a b) (p : String → Bool) :
    a.any (fun q => p q.1) = b.any fun q => p q.1 := by
  induction h with
  | nil => rfl
  | cons first _ ih => rw [List.any_cons, List.any_cons, ih, first.1]

end Bindings

namespace Options

/-! ## Objects with the same names set -/

/-- The functions of the object and the description of its fields, by which it works, and the attributes
that check what they are set to. -/
def decisiveNames : List String :=
  ["update", "to_dict", "__dataclass_fields__", "__dict__", "__class__"]

/-- Values that make no difference under a name: any two, unless the name is one of the five. -/
def SameUse (name : String) (v w : Value) : Prop :=
  name ∈ decisiveNames → v = w

/-- Settings of the same names, with values that make no difference. -/
abbrev SameSettings (a b : Settings) : Prop :=
  Bindings.Alike SameUse a b

/-- The same names are set on both objects, to values that make no difference. -/
def Alike (o o' : Options) : Prop :=
  SameSettings o.attributes o'.attributes

theorem SameUse.refl (name : String) (v : Value) : SameUse name v v :=
  fun _ => rfl

/-- Objects on which nothing is set but the option. -/
theorem alike_option (v w : Value) :
    Alike ⟨[(warnPrecisionLossName, v)]⟩ ⟨[(warnPrecisionLossName, w)]⟩ := by
  have free : warnPrecisionLossName ∉ decisiveNames := by decide
  exact .cons ⟨rfl, fun decisive => absurd decisive free⟩ .nil

variable {o o' : Options}

theorem Alike.get?_eq (h : o.Alike o') {name : String} (decisive : name ∈ decisiveNames) :
    o.attributes.get? name = o'.attributes.get? name := by
  rcases h.get? name with ⟨hx, hy⟩ | ⟨v, w, hx, hy, use⟩
  · rw [hx, hy]
  · rw [hx, hy, use decisive]

/-- Both objects have an attribute of the name, or neither has. -/
theorem Alike.isSome_get? (h : o.Alike o') (name : String) :
    (o.get? name).isSome = (o'.get? name).isSome := by
  unfold Options.get?
  split
  · rfl
  · split
    · rfl
    · rcases Bindings.Alike.get? h name with ⟨hx, hy⟩ | ⟨v, w, hx, hy, -⟩
      · rw [hx, hy]
      · rw [hx, hy]
        rfl

theorem Alike.set (h : o.Alike o') {name : String} {v w : Value} (use : SameUse name v w) :
    Agree Alike (o.set name v) (o'.set name w) := by
  have known : (o.get? name).isNone = (o'.get? name).isNone := by
    rw [← Option.not_isSome, h.isSome_get?, Option.not_isSome]
  unfold Options.set
  rw [← known]
  split_ifs with missing dict cls weak
  · exact .error _
  · -- the attributes are replaced by the same record
    obtain rfl : v = w := use (by rw [dict]; decide)
    cases v with
    | record attributes => exact .ok (Bindings.Alike.refl SameUse.refl attributes)
    | null | flag | int | real | text | list => exact .error _
  · obtain rfl : v = w := use (by rw [cls]; decide)
    exact .error _
  · exact .error _
  · exact .ok (Bindings.Alike.put h use)

theorem Alike.setAll (h : o.Alike o') {a b : Settings} (settings : SameSettings a b) :
    (o.setAll a).1.Alike (o'.setAll b).1 ∧ (o.setAll a).2 = (o'.setAll b).2 := by
  induction settings generalizing o o' with
  | nil => exact ⟨h, rfl⟩
  | @cons p q a b first _ ih =>
    obtain ⟨n, v⟩ := p
    obtain ⟨m, w⟩ := q
    obtain ⟨rfl, use⟩ : n = m ∧ SameUse n v w := first
    rw [Options.setAll, Options.setAll]
    rcases h.set use with ⟨e, hx, hy⟩ | ⟨u, u', hx, hy, alike⟩
    · rw [hx, hy]
      exact ⟨h, rfl⟩
    · rw [hx, hy]
      exact ih alike

/-- Settings of the same names come to the same end. -/
theorem Alike.update (h : o.Alike o') {a b : Settings} (settings : SameSettings a b) :
    (o.update a).1.Alike (o'.update b).1 ∧ (o.update a).2 = (o'.update b).2 := by
  unfold Options.update
  rw [← h.get?_eq (by decide : "update" ∈ decisiveNames), ← settings.any_name (· == "self")]
  split
  · exact ⟨h, rfl⟩
  · split
    · exact ⟨h, rfl⟩
    · exact h.setAll settings

/-- What is set in place of the attributes makes a difference. -/
example : (initial.update [("__dict__", .record [])]).2 = none ∧
    (initial.update [("__dict__", .int 0)]).2 = some (.notRecord (.int 0)) :=
  ⟨rfl, rfl⟩

/-! ## Giving the option back -/

/-- The option was found twice, or twice it was not. -/
abbrev SameFinding (x y : Option Value) : Prop :=
  x.isSome = y.isSome

theorem Alike.snapshot (h : o.Alike o') : Agree SameFinding o.snapshot o'.snapshot := by
  unfold Options.snapshot
  rw [← h.get?_eq (by decide : "to_dict" ∈ decisiveNames),
    ← h.get?_eq (by decide : "__dataclass_fields__" ∈ decisiveNames)]
  split
  · exact .error _
  · exact .ok rfl
  · exact .ok rfl
  · exact .error _
  · exact .error _

theorem Alike.restore (h : o.Alike o') {x y : Option Value} (found : SameFinding x y) :
    (o.restore x).Alike (o'.restore y) := by
  have free : warnPrecisionLossName ∉ decisiveNames := by decide
  cases x with
  | none =>
    cases y with
    | none => exact h
    | some w => exact Bool.noConfusion found
  | some v =>
    cases y with
    | none => exact Bool.noConfusion found
    | some w => exact Bindings.Alike.put h fun decisive => absurd decisive free

/-- Options are set for a while on both objects, or on neither, and the same is to be given back. -/
theorem Alike.enter (h : o.Alike o') {a b : Settings} (settings : SameSettings a b) :
    (o.enter a).1.Alike (o'.enter b).1 ∧ Agree SameFinding (o.enter a).2 (o'.enter b).2 := by
  unfold Options.enter
  rcases h.snapshot with ⟨e, hx, hy⟩ | ⟨x, y, hx, hy, found⟩
  · rw [hx, hy]
    exact ⟨h, .error e⟩
  · rw [hx, hy]
    obtain ⟨alike, ends⟩ := h.update settings
    generalize o.update a = r at alike ends ⊢
    generalize o'.update b = r' at alike ends ⊢
    obtain ⟨u, e⟩ := r
    obtain ⟨u', e'⟩ := r'
    obtain rfl : e = e' := ends
    cases e with
    | none => exact ⟨alike, .ok found⟩
    | some e => exact ⟨alike.restore found, .error e⟩

end Options

end Formulary
