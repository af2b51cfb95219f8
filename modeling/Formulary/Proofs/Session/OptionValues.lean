import Formulary.Proofs.Formula.Construction
import Formulary.Proofs.Session.Attributes
import Formulary.Session.Run

/-!
# Option values only decide about warnings

Two sessions that are the same up to the values given to options keep the same formulas and report the
same, warnings and option values apart (`Step.runAll_alike`). A direct check of a literal is the one
action whose outcome depends on the options otherwise: it fails on a text that is no number, but only if
it has to warn about it.

`State.Alike` is what the two runs have in common after every step: the formulas that are kept, the names that
are set on the object of options, and which contexts are open. The value of the option, and what a context
will give back, may differ. That making a formula does not notice is `Formula.parse_map_fst`.

The values may be those of the option or of any other name, known or not, but for the five names by which the
object itself works (`Options.decisiveNames`): these are given the same values in both sessions.
-/

set_option autoImplicit false

namespace Formulary

open Options (SameSettings SameFinding)

theorem Value.formula_map_fst (warn warn' : Bool) (v : Value) :
    (v.formula warn).map Prod.fst = (v.formula warn').map Prod.fst := by
  cases v with
  | text s => exact (Formula.parse_map_fst warn s).trans (Formula.parse_map_fst warn' s).symm
  | null | flag | int | real | list | record => rfl

/-- With warnings and without, a value fails to be a formula for the same reason or is the same one. -/
theorem Value.formula_agree (warn warn' : Bool) (v : Value) :
    Agree (fun p q => p.1 = q.1) (v.formula warn) (v.formula warn') := by
  have same := v.formula_map_fst warn warn'
  cases hx : v.formula warn with
  | error e =>
    rw [hx] at same
    cases hy : v.formula warn' with
    | error e' =>
      rw [hy] at same
      rw [Except.error.inj same]
      exact .error e'
    | ok p =>
      rw [hy] at same
      contradiction
  | ok p =>
    rw [hx] at same
    cases hy : v.formula warn' with
    | error e =>
      rw [hy] at same
      contradiction
    | ok p' =>
      rw [hy] at same
      exact .ok (Except.ok.inj same)

namespace Session

/-! ## Sessions up to the values given to options -/

/-- The same action, except for the values given to options. -/
inductive Action.Alike : Action → Action → Prop
  | same (action : Action) : Alike action action
  | setOptions {a b : Settings} (settings : SameSettings a b) :
    Alike (.setOptions a) (.setOptions b)
  | enter (context : String) {a b : Settings} (settings : SameSettings a b) :
    Alike (.enter context a) (.enter context b)

mutual

/-- The same step, except for the values given to options in it. -/
inductive Step.Alike : Step → Step → Prop
  | act {a b : Action} (h : a.Alike b) : Step.Alike (.act a) (.act b)
  | block {a b : Settings} {steps steps' : List Step}
    (settings : SameSettings a b) (inside : Step.AllAlike steps steps')
    (final : Option Value) : Step.Alike (.block a steps final) (.block b steps' final)

/-- The same steps, except for the values given to options in them. -/
inductive Step.AllAlike : List Step → List Step → Prop
  | nil : Step.AllAlike [] []
  | cons {step step' : Step} {rest rest' : List Step} (first : Step.Alike step step')
    (others : Step.AllAlike rest rest') : Step.AllAlike (step :: rest) (step' :: rest')

end

/-! ## Reports up to warnings and option values -/

/-- The answer without its warnings, and without the value of an option. -/
def Answer.bare : Answer → Answer
  | .built canonical _ => .built canonical []
  | .option _ => .option (.value .null)
  | answer => answer

/-- The action has the same outcome, warnings and option values apart. Of a direct check nothing is
said. -/
def Action.SameOutcome : Action → Except Error Answer → Except Error Answer → Prop
  | .check _, _, _ => True
  | _, x, y => x.map Answer.bare = y.map Answer.bare

mutual

/-- The step has the same report, but for the options after it. -/
inductive Step.SameReport : Step → Report → Report → Prop
  | act {action : Action} {x y : Except Error Answer} (h : action.SameOutcome x y)
    (o o' : Options) : Step.SameReport (.act action) (.action x o) (.action y o')
  | refused {settings : Settings} {steps : List Step} {final : Option Value} (e : Error)
    (o o' : Options) :
    Step.SameReport (.block settings steps final) (.refused e o) (.refused e o')
  | block {settings : Settings} {steps : List Step} {final : Option Value}
    {reports reports' : List Report} (inside : Step.AllSameReport steps reports reports')
    (e : Option Error) (o o' : Options) :
    Step.SameReport (.block settings steps final) (.block reports e o) (.block reports' e o')

/-- Each step has the same report, and no report is missing. -/
inductive Step.AllSameReport : List Step → List Report → List Report → Prop
  | nil : Step.AllSameReport [] [] []
  | cons {step : Step} {rest : List Step} {r r' : Report} {rs rs' : List Report}
    (first : Step.SameReport step r r') (others : Step.AllSameReport rest rs rs') :
    Step.AllSameReport (step :: rest) (r :: rs) (r' :: rs')

end

/-! ## What two runs have in common -/

/-- The same names are set on the options, the same formulas are kept in the same slots, and the same
contexts are open. -/
structure State.Alike (s s' : State) : Prop where
  options : s.options.Alike s'.options
  slots : s.slots = s'.slots
  contexts : Bindings.Alike (fun _ => SameFinding) s.contexts s'.contexts

namespace State

variable {s s' : State}

theorem Alike.formula (h : s.Alike s') (slot : String) : s.formula slot = s'.formula slot := by
  rw [State.formula, State.formula, h.slots]

theorem Alike.compare (h : s.Alike s') (a b : String) : s.compare a b = s'.compare a b := by
  rw [State.compare, State.compare, h.formula, h.formula]

theorem Alike.withOptions (h : s.Alike s') {o o' : Options} (options : o.Alike o') :
    Alike { s with options := o } { s' with options := o' } :=
  ⟨options, h.slots, h.contexts⟩

end State

/-- The state and the outcome that an action leaves, in two runs. -/
def Action.SameEffect (action : Action) (r r' : State × Except Error Answer) : Prop :=
  r.1.Alike r'.1 ∧ action.SameOutcome r.2 r'.2

namespace State

variable {s s' : State}

/-! ## One action -/

theorem new_alike (h : s.Alike s') (slot : String) (v : Value) :
    (Action.new slot v).SameEffect (s.new slot v) (s'.new slot v) := by
  rw [State.new, State.new]
  rcases v.formula_agree s.options.warns s'.options.warns with
    ⟨e, hx, hy⟩ | ⟨⟨f, ws⟩, ⟨_, ws'⟩, hx, hy, rfl⟩
  · rw [hx, hy]
    exact ⟨h, rfl⟩
  · rw [hx, hy]
    exact ⟨⟨h.options, congrArg (Bindings.put slot f) h.slots, h.contexts⟩, rfl⟩

theorem setOptions_alike (h : s.Alike s') {a b : Settings} (settings : SameSettings a b) :
    (Action.setOptions a).SameEffect (s.setOptions a) (s'.setOptions b) := by
  obtain ⟨alike, ends⟩ := h.options.update settings
  rw [State.setOptions, State.setOptions]
  generalize s.options.update a = r at alike ends ⊢
  generalize s'.options.update b = r' at alike ends ⊢
  obtain ⟨u, e⟩ := r
  obtain ⟨u', e'⟩ := r'
  obtain rfl : e = e' := ends
  cases e with
  | none => exact ⟨h.withOptions alike, rfl⟩
  | some e => exact ⟨h.withOptions alike, rfl⟩

theorem enter_alike (h : s.Alike s') (context : String) {a b : Settings}
    (settings : SameSettings a b) :
    (Action.enter context a).SameEffect (s.enter context a) (s'.enter context b) := by
  obtain ⟨alike, found⟩ := h.options.enter settings
  rw [State.enter, State.enter]
  generalize s.options.enter a = r at alike found ⊢
  generalize s'.options.enter b = r' at alike found ⊢
  obtain ⟨u, x⟩ := r
  obtain ⟨u', y⟩ := r'
  obtain ⟨e, rfl, rfl⟩ | ⟨old, old', rfl, rfl, found⟩ := found
  · exact ⟨h.withOptions alike, rfl⟩
  · refine ⟨⟨?_, h.slots, h.contexts.put found⟩, rfl⟩
    -- a context of the same name is left by both runs or by neither
    rcases h.contexts.get? context with ⟨hx, hy⟩ | ⟨z, z', hx, hy, before⟩
    · rw [hx, hy]
      exact alike
    · rw [hx, hy]
      exact alike.restore before

theorem exit_alike (h : s.Alike s') (context : String) :
    (Action.exit context).SameEffect (s.exit context) (s'.exit context) := by
  rw [State.exit, State.exit]
  rcases h.contexts.get? context with ⟨hx, hy⟩ | ⟨old, old', hx, hy, found⟩
  · rw [hx, hy]
    exact ⟨h, rfl⟩
  · rw [hx, hy]
    exact ⟨⟨h.options.restore found, h.slots, h.contexts.erase context⟩, rfl⟩

theorem getOption_alike (h : s.Alike s') (name : String) :
    (Action.getOption name).SameEffect (s, s.getOption name) (s', s'.getOption name) := by
  refine ⟨h, ?_⟩
  have known := h.options.isSome_get? name
  simp only [Action.SameOutcome, State.getOption]
  cases hx : s.options.get? name with
  | none =>
    rw [hx] at known
    rw [Option.isSome_eq_false_iff.mp known.symm |> Option.isNone_iff_eq_none.mp]
  | some v =>
    rw [hx] at known
    obtain ⟨w, hy⟩ := Option.isSome_iff_exists.mp known.symm
    rw [hy]
    rfl

theorem act_alike (h : s.Alike s') {a b : Action} (alike : a.Alike b) :
    a.SameEffect (s.act a) (s'.act b) := by
  cases alike with
  | setOptions settings => exact setOptions_alike h settings
  | enter context settings => exact enter_alike h context settings
  | same =>
    cases a with
    | new slot v => exact new_alike h slot v
    | view slot =>
      refine ⟨h, ?_⟩
      simp only [Action.SameOutcome, act, h.formula]
    | compare a b =>
      refine ⟨h, ?_⟩
      simp only [Action.SameOutcome, act, h.compare]
    | distinct slots =>
      have same : s.formula = s'.formula := funext h.formula
      refine ⟨h, ?_⟩
      simp only [Action.SameOutcome, act, same]
    | assign slot field | delete slot field =>
      refine ⟨h, ?_⟩
      simp only [Action.SameOutcome, act, h.formula]
    | isFormula v => exact ⟨h, rfl⟩
    | check text => exact ⟨h, trivial⟩
    | setOptions settings =>
      exact setOptions_alike h (Bindings.Alike.refl Options.SameUse.refl settings)
    | getOption name => exact getOption_alike h name
    | enter context settings =>
      exact enter_alike h context (Bindings.Alike.refl Options.SameUse.refl settings)
    | exit context => exact exit_alike h context

end State

/-! ## Whole sessions -/

theorem finalError_eq (o o' : Options) (final : Option Value) :
    finalError o final = finalError o' final := by
  cases final with
  | none => rfl
  | some v =>
    rw [finalError, finalError]
    rcases v.formula_agree o.warns o'.warns with ⟨e, hx, hy⟩ | ⟨p, q, hx, hy, -⟩
    · rw [hx, hy]
    · rw [hx, hy]

mutual

/-- One step, blocks included, keeps what the two runs have in common and reports the same. -/
theorem Step.run_alike {step step' : Step} (alike : Step.Alike step step') {s s' : State}
    (h : s.Alike s') :
    (Step.run step s).1.Alike (Step.run step' s').1 ∧
      Step.SameReport step (Step.run step s).2 (Step.run step' s').2 := by
  cases alike with
  | act action =>
    obtain ⟨state, outcome⟩ := State.act_alike h action
    rw [Step.run, Step.run]
    exact ⟨state, .act outcome _ _⟩
  | @block a b _ _ settings inside final =>
    obtain ⟨alike, found⟩ := h.options.enter settings
    rw [Step.run, Step.run]
    generalize s.options.enter a = r at alike found ⊢
    generalize s'.options.enter b = r' at alike found ⊢
    obtain ⟨u, x⟩ := r
    obtain ⟨u', y⟩ := r'
    obtain ⟨e, rfl, rfl⟩ | ⟨old, old', rfl, rfl, found⟩ := found
    · exact ⟨h.withOptions alike, .refused _ _ _⟩
    · -- the steps inside start from alike options, and what each run found is given back to it
      obtain ⟨state, reports⟩ := Step.runAll_alike inside (h.withOptions alike)
      refine ⟨state.withOptions (state.options.restore found), ?_⟩
      dsimp only
      rw [finalError_eq _ (Step.runAll _ { s' with options := u' }).1.options]
      exact .block reports _ _ _

theorem Step.runAll_alike {steps steps' : List Step} (alike : Step.AllAlike steps steps')
    {s s' : State} (h : s.Alike s') :
    (Step.runAll steps s).1.Alike (Step.runAll steps' s').1 ∧
      Step.AllSameReport steps (Step.runAll steps s).2 (Step.runAll steps' s').2 := by
  cases alike with
  | nil => exact ⟨h, .nil⟩
  | cons first others =>
    obtain ⟨middle, report⟩ := Step.run_alike first h
    obtain ⟨last, reports⟩ := Step.runAll_alike others middle
    rw [Step.runAll, Step.runAll]
    exact ⟨last, .cons report reports⟩

end

/-- A whole session that starts with given options. -/
def Step.runFrom (o : Options) (steps : List Step) : State × List Report :=
  Step.runAll steps { State.initial with options := o }

/-- A session that gives the option a value in every way there is: in a context, for a block that is left
by a rejection, and in an update that fails at its last name. The value is given to other names as well, to
one that the object has and to one that it lacks, and the function that makes settings is hidden by a value
that is the same in all sessions. -/
def settingSession (v : Value) : List Step :=
  [.act (.enter "c" [("warn_precision_loss", v)]),
    .act (.new "f" (.text "x1 + 12345678901234567890")),
    .block [("warn_precision_loss", v)]
      [.act (.setOptions [("warn_precision_loss", v), ("__doc__", v), ("colour", v)]),
        .act (.check "ten"), .act (.setOptions [("update", .null)]), .act (.setOptions []),
        .act (.new "g" (.text "X1+12345678901234567890"))]
      (some (.text "2 3")),
    .act (.exit "c"), .act (.getOption "warn_precision_loss"), .act (.compare "f" "g")]

theorem settingSession_alike (v w : Value) :
    Step.AllAlike (settingSession v) (settingSession w) := by
  have free : ∀ name ∉ Options.decisiveNames, Options.SameUse name v w :=
    fun _ free decisive => absurd decisive free
  have option := free "warn_precision_loss" (by decide)
  have one : SameSettings [("warn_precision_loss", v)] [("warn_precision_loss", w)] :=
    .cons ⟨rfl, option⟩ .nil
  have three : SameSettings [("warn_precision_loss", v), ("__doc__", v), ("colour", v)]
      [("warn_precision_loss", w), ("__doc__", w), ("colour", w)] :=
    .cons ⟨rfl, option⟩ (.cons ⟨rfl, free "__doc__" (by decide)⟩
      (.cons ⟨rfl, free "colour" (by decide)⟩ .nil))
  refine .cons (.act (.enter "c" one)) (.cons (.act (.same _)) (.cons (.block one ?_ _)
    (.cons (.act (.same _)) (.cons (.act (.same _)) (.cons (.act (.same _)) .nil)))))
  exact .cons (.act (.setOptions three)) (.cons (.act (.same _)) (.cons (.act (.same _))
    (.cons (.act (.same _)) (.cons (.act (.same _)) .nil))))

end Session

end Formulary
