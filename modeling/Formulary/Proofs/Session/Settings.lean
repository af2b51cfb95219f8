import Formulary.Session.Options
import Mathlib.Tactic.SplitIfs

/-!
# What settings make of the option

The option is one attribute among those of an object, and settings are made, and the option is found, by
other attributes of the same object. Two things are needed of those.

What is found for later is the value of the option, unless the description of the fields has been replaced by
one of no fields (`Options.Described`). Then options that are set for a while, or cannot be set, are given
back (`Described.eq_of_enter`, `Described.warnPrecisionLoss_enter`).

While nothing is set under the names by which the object works, it has the names that it was made with
(`Options.Intact`). Settings then give the option the last of their values for it that stands before a name
that cannot be set (`Options.valueAfter`).
-/

set_option autoImplicit false

namespace Formulary

namespace Options

/-! ## The value that is found -/

/-- The description of the fields, if it is hidden at all, is not hidden by one of no fields. -/
def Described (o : Options) : Prop :=
  o.attributes.get? "__dataclass_fields__" ≠ some (.record [])

variable {o : Options} {settings : Settings} {name : String} {v : Value}

theorem Described.of_unset (h : o.attributes.get? "__dataclass_fields__" = none) : o.Described := by
  rw [Described, h]
  exact (Option.some_ne_none _).symm

/-- What is found is the value of the option. -/
theorem Described.eq_of_snapshot {found : Option Value} (h : o.Described)
    (hs : o.snapshot = .ok found) : found = some o.warnPrecisionLoss := by
  unfold snapshot at hs
  split at hs
  · contradiction
  · exact (Except.ok.inj hs).symm
  · next empty => exact absurd empty h
  · contradiction
  · contradiction

theorem warnPrecisionLoss_put (o : Options) (name : String) (v : Value) :
    warnPrecisionLoss ⟨o.attributes.put name v⟩ =
      if name = warnPrecisionLossName then v else o.warnPrecisionLoss := by
  rw [warnPrecisionLoss, Bindings.get?_put]
  split
  · rfl
  · rfl

theorem warnPrecisionLoss_restore (o : Options) (v : Value) :
    (o.restore (some v)).warnPrecisionLoss = v :=
  (o.warnPrecisionLoss_put warnPrecisionLossName v).trans (if_pos rfl)

/-- Whoever has set options for a while will give back the value that the option had. -/
theorem Described.eq_of_enter {found : Option Value} (h : o.Described)
    (entered : (o.enter settings).2 = .ok found) : found = some o.warnPrecisionLoss := by
  unfold enter at entered
  split at entered
  · contradiction
  · next old hs =>
    split at entered
    · exact Except.ok.inj entered ▸ h.eq_of_snapshot hs
    · contradiction

/-- If options cannot be set for a while, the option keeps its value. -/
theorem Described.warnPrecisionLoss_enter {e : Error} (h : o.Described)
    (failed : (o.enter settings).2 = .error e) :
    (o.enter settings).1.warnPrecisionLoss = o.warnPrecisionLoss := by
  unfold enter at failed ⊢
  split at failed
  · rfl
  · next old hs =>
    split at failed
    · contradiction
    · rw [h.eq_of_snapshot hs]
      exact warnPrecisionLoss_restore _ _

/-! ## Objects that are as they were made -/

/-- The names by which the object makes settings and finds the option. -/
def workingNames : List String :=
  ["update", "__dict__", "__dataclass_fields__"]

/-- The names that the object has are those that it was made with, and it works as it did then. -/
structure Intact (o : Options) : Prop where
  known : ∀ name v, o.attributes.get? name = some v → (inherited? name).isSome = true
  free : ∀ name ∈ workingNames, o.attributes.get? name = none

/-- No setting has a name by which the object works. -/
def Harmless (settings : Settings) : Prop :=
  ∀ p ∈ settings, p.1 ∉ workingNames

theorem intact_option (v : Value) : Intact ⟨[(warnPrecisionLossName, v)]⟩ where
  known name w h := by
    rw [Bindings.get?_cons] at h
    split at h
    · next found => exact found ▸ rfl
    · contradiction
  free name working := by
    have other : warnPrecisionLossName ≠ name := by
      rintro rfl
      exact absurd working (by decide)
    rw [Bindings.get?_cons, if_neg other, Bindings.get?_nil]

theorem Intact.described (h : o.Intact) : o.Described :=
  .of_unset (h.free _ (by decide : "__dataclass_fields__" ∈ workingNames))

/-- The names that are known are those of the option and of what is inherited. -/
theorem Intact.isSome_get? (h : o.Intact) (name : String) :
    (o.get? name).isSome = (inherited? name).isSome := by
  unfold Options.get?
  split_ifs with dict fixed
  · rw [dict]
    rfl
  · obtain rfl | rfl := fixed
    · rfl
    · rfl
  · split
    · next v found => exact (h.known name v found).symm
    · rfl

/-- The name can be set on an object that is as it was made. (Its attributes themselves, which can be set as
well, are left out of account.) -/
def isSettable (name : String) : Bool :=
  (inherited? name).isSome && name != "__class__" && name != "__weakref__"

theorem isSettable_iff : isSettable name = true ↔
    (inherited? name).isSome = true ∧ name ≠ "__class__" ∧ name ≠ "__weakref__" := by
  simp [isSettable, and_assoc]

theorem ne_dict (harmless : name ∉ workingNames) : name ≠ "__dict__" := by
  rintro rfl
  exact absurd (by decide) harmless

theorem Intact.set_eq (h : o.Intact) (harmless : name ∉ workingNames)
    (settable : isSettable name = true) (v : Value) : o.set name v = .ok ⟨o.attributes.put name v⟩ := by
  obtain ⟨known, cls, weak⟩ := isSettable_iff.mp settable
  have found : (o.get? name).isNone = false := by
    rw [← Option.not_isSome, h.isSome_get?, known, Bool.not_true]
  rw [Options.set, found, if_neg Bool.false_ne_true, if_neg (ne_dict harmless), if_neg cls,
    if_neg weak]

theorem Intact.set_error (h : o.Intact) (harmless : name ∉ workingNames)
    (fixed : isSettable name = false) (v : Value) : ∃ e, o.set name v = .error e := by
  rw [Options.set, if_neg (ne_dict harmless)]
  split_ifs with unknown cls weak
  · exact ⟨_, rfl⟩
  · exact ⟨_, rfl⟩
  · exact ⟨_, rfl⟩
  · -- a name that is known and none of the two can be set
    have known : (inherited? name).isSome = true := by
      rw [← h.isSome_get?, ← Option.not_isNone, Bool.eq_false_iff.mpr unknown, Bool.not_false]
    rw [isSettable_iff.mpr ⟨known, cls, weak⟩] at fixed
    contradiction

theorem Intact.put (h : o.Intact) (harmless : name ∉ workingNames)
    (known : (inherited? name).isSome = true) (v : Value) : Intact ⟨o.attributes.put name v⟩ where
  known other w found := by
    rw [Bindings.get?_put] at found
    split at found
    · next same => exact same ▸ known
    · exact h.known other w found
  free other working := by
    have different : name ≠ other := by
      rintro rfl
      exact harmless working
    rw [Bindings.get?_put, if_neg different]
    exact h.free other working

theorem Intact.restore (h : o.Intact) (found : Option Value) : (o.restore found).Intact := by
  cases found with
  | none => exact h
  | some v => exact h.put (by decide : warnPrecisionLossName ∉ workingNames) rfl v

/-! ## The value that settings give -/

/-- The values for the option before the first name that cannot be set. -/
def valuesIn (settings : Settings) : List Value :=
  ((settings.takeWhile fun p => isSettable p.1).filter
    fun p => p.1 == warnPrecisionLossName).map Prod.snd

theorem valuesIn_cons (name : String) (v : Value) (rest : Settings) :
    valuesIn ((name, v) :: rest) =
      if isSettable name = true then
        if name = warnPrecisionLossName then v :: valuesIn rest else valuesIn rest
      else [] := by
  rw [valuesIn, List.takeWhile_cons]
  split
  · rw [List.filter_cons]
    simp only [beq_iff_eq]
    split
    · rfl
    · rfl
  · rfl

/-- The value of the option after settings: the last one that they give to it, if they give any. None counts
if one of the names is that under which the object is handed on. -/
def valueAfter (old : Value) (settings : Settings) : Value :=
  if settings.any fun p => p.1 == "self" then old else (valuesIn settings).getLastD old

theorem Intact.setAll (h : o.Intact) (harmless : Harmless settings) :
    (o.setAll settings).1.Intact ∧
      (o.setAll settings).1.warnPrecisionLoss = (valuesIn settings).getLastD o.warnPrecisionLoss := by
  induction settings generalizing o with
  | nil => exact ⟨h, rfl⟩
  | cons setting rest ih =>
    obtain ⟨name, v⟩ := setting
    obtain ⟨own, others⟩ := List.forall_mem_cons.mp harmless
    rw [Options.setAll]
    cases settable : isSettable name with
    | false =>
      obtain ⟨e, failed⟩ := h.set_error own settable v
      rw [failed, valuesIn_cons, if_neg (by simp [settable])]
      exact ⟨h, rfl⟩
    | true =>
      obtain ⟨intact, value⟩ := ih (h.put own (isSettable_iff.mp settable).1 v) others
      rw [h.set_eq own settable v]
      refine ⟨intact, ?_⟩
      show (Options.setAll _ rest).1.warnPrecisionLoss = _
      rw [value, warnPrecisionLoss_put, valuesIn_cons, if_pos settable]
      split
      · rw [List.getLastD_cons]
      · rfl

theorem Intact.update (h : o.Intact) (harmless : Harmless settings) :
    (o.update settings).1.Intact ∧
      (o.update settings).1.warnPrecisionLoss = valueAfter o.warnPrecisionLoss settings := by
  rw [Options.update, valueAfter, h.free _ (by decide : "update" ∈ workingNames)]
  dsimp only
  split
  · exact ⟨h, rfl⟩
  · exact h.setAll harmless

theorem Intact.enter (h : o.Intact) (harmless : Harmless settings) : (o.enter settings).1.Intact := by
  obtain ⟨intact, -⟩ := h.update harmless
  unfold Options.enter
  split
  · exact h
  · next old _ =>
    rcases hu : o.update settings with ⟨o', _ | e⟩
    · rw [hu] at intact
      exact intact
    · rw [hu] at intact
      exact Intact.restore intact old

end Options

end Formulary
