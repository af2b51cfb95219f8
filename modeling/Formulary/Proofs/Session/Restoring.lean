import Formulary.Proofs.Session.Settings
import Formulary.Session.Run

/-!
# The option is given back

Two things change options for a while: a block, for the steps inside it, and a context, until it is left.
Both give the option the value that they found.

For blocks this is a statement about programs. Outside of blocks only settings count, each up to its first
name that cannot be set (`Options.valueAfter`), and a program in which no context is entered or left outside
of a block ends with the value that these settings give, as if the blocks were not there
(`Step.warnPrecisionLoss_runAll`). But a block gives back nothing but the option, and the names that can be
set include those by which the object of options works (`Options.workingNames`). Set inside a block, such a
name still has its effect on the settings behind it, so the statement is about programs in which none of them
is set, and its invariant is that the object is as it was made (`Options.Intact`).

Contexts are left in any order, and need not be left in the block in which they were entered, so the
statement about them is one about the actions of a whole run, one after the other (`Step.visits`). What a
context will give back is kept in the state, and only actions that name the context touch it
(`State.get?_contexts_act`); a run hands it on from each action to the next one (`Step.handsOn_visits`). The
names that are set in between may be any. Only the description of the fields matters, and only when the
context is entered: if it describes none, then the option is not found (`Options.Described`).
-/

set_option autoImplicit false

namespace Formulary

namespace Session

open Options (Harmless)

/-! ## Programs with blocks -/

/-- The action enters or leaves a context. -/
def Action.isAboutContexts : Action → Bool
  | .enter _ _ | .exit _ => true
  | _ => false

/-- The step itself is none that enters or leaves a context. If it is a block, there may be such steps
inside. -/
def Step.isLocal : Step → Bool
  | .act action => !action.isAboutContexts
  | .block _ _ _ => true

/-- The settings that a step makes for good. -/
def Step.settings? : Step → Option Settings
  | .act (.setOptions settings) => some settings
  | _ => none

def Step.isBlock : Step → Bool
  | .act _ => false
  | .block _ _ _ => true

def Step.withoutBlocks (steps : List Step) : List Step :=
  steps.filter fun step => !step.isBlock

/-- The settings that an action makes, for good or for a while. -/
def Action.settings : Action → Settings
  | .setOptions settings | .enter _ settings => settings
  | _ => []

mutual

/-- No setting in the step has a name by which the options work, inside blocks neither. -/
def Step.Harmless : Step → Prop
  | .act action => Options.Harmless action.settings
  | .block settings steps _ => Options.Harmless settings ∧ Step.AllHarmless steps

def Step.AllHarmless : List Step → Prop
  | [] => True
  | step :: rest => Step.Harmless step ∧ Step.AllHarmless rest

end

theorem State.options_setOptions (s : State) (settings : Settings) :
    (s.act (.setOptions settings)).1.options = (s.options.update settings).1 := by
  show (s.setOptions settings).1.options = _
  unfold State.setOptions
  split
  · next hu => rw [hu]
  · next hu => rw [hu]

theorem State.options_new (s : State) (slot : String) (v : Value) :
    (s.act (.new slot v)).1.options = s.options := by
  show (s.new slot v).1.options = s.options
  unfold State.new
  split
  · rfl
  · rfl

/-- Options that are as they were made stay so. -/
theorem State.intact_act {action : Action} {s : State} (h : s.options.Intact)
    (harmless : Harmless action.settings) :
    (s.act action).1.options.Intact := by
  cases action with
  | setOptions settings =>
    rw [State.options_setOptions]
    exact (h.update harmless).1
  | enter context settings =>
    have intact : (s.options.enter settings).1.Intact := h.enter harmless
    show (s.enter context settings).1.options.Intact
    unfold State.enter
    rcases hu : s.options.enter settings with ⟨o, e | old⟩
    · rw [hu] at intact
      exact intact
    · rw [hu] at intact
      cases s.contexts.get? context with
      | none => exact intact
      | some before => exact Options.Intact.restore intact before
  | exit context =>
    show (s.exit context).1.options.Intact
    unfold State.exit
    split
    · exact h
    · exact h.restore _
  | new slot v =>
    rw [State.options_new]
    exact h
  | view | compare | distinct | assign | delete | isFormula | check | getOption => exact h

mutual

/-- The options stay as they were made, whatever a program does to them under other names. -/
theorem Step.intact_run (step : Step) {s : State} (h : s.options.Intact)
    (harmless : step.Harmless) : (Step.run step s).1.options.Intact := by
  cases step with
  | act action =>
    rw [Step.Harmless] at harmless
    rw [Step.run]
    exact State.intact_act h harmless
  | block settings steps final =>
    rw [Step.Harmless] at harmless
    have entered := h.enter harmless.1
    rw [Step.run]
    rcases hu : s.options.enter settings with ⟨o, e | old⟩
    · rw [hu] at entered
      exact entered
    · rw [hu] at entered
      exact (Step.intact_runAll steps (s := ⟨o, s.slots, s.contexts⟩) entered harmless.2).restore old

theorem Step.intact_runAll (steps : List Step) {s : State} (h : s.options.Intact)
    (harmless : Step.AllHarmless steps) : (Step.runAll steps s).1.options.Intact := by
  cases steps with
  | nil => exact h
  | cons step rest =>
    rw [Step.AllHarmless] at harmless
    rw [Step.runAll]
    exact Step.intact_runAll rest (Step.intact_run step h harmless.1) harmless.2

end

/-- Outside of contexts only settings change the option. -/
theorem State.warnPrecisionLoss_act {action : Action} {s : State} (h : s.options.Intact)
    (harmless : Harmless action.settings) (outside : action.isAboutContexts = false) :
    (s.act action).1.options.warnPrecisionLoss =
      (Step.settings? (.act action)).elim s.options.warnPrecisionLoss
        (Options.valueAfter s.options.warnPrecisionLoss) := by
  cases action with
  | setOptions settings =>
    rw [State.options_setOptions]
    exact (h.update harmless).2
  | new slot v =>
    rw [State.options_new]
    rfl
  | view | compare | distinct | assign | delete | isFormula | check | getOption => rfl
  | enter | exit => simp [Action.isAboutContexts] at outside

/-- A block, whatever happens inside it, leaves the option as it was. -/
theorem Step.warnPrecisionLoss_run {step : Step} {s : State} (h : s.options.Intact)
    (harmless : step.Harmless) (outside : step.isLocal = true) :
    (Step.run step s).1.options.warnPrecisionLoss =
      step.settings?.elim s.options.warnPrecisionLoss
        (Options.valueAfter s.options.warnPrecisionLoss) := by
  cases step with
  | act action =>
    rw [Step.Harmless] at harmless
    rw [Step.run]
    exact State.warnPrecisionLoss_act h harmless (by simpa [Step.isLocal] using outside)
  | block settings steps final =>
    rw [Step.run]
    split
    · next o e hu =>
      have kept := h.described.warnPrecisionLoss_enter (congrArg Prod.snd hu)
      rw [hu] at kept
      exact kept
    · next o old hu =>
      rw [h.described.eq_of_enter (congrArg Prod.snd hu)]
      exact Options.warnPrecisionLoss_restore _ _

/-- The settings outside of blocks, one after the other, make the value of the option at the end. -/
theorem Step.warnPrecisionLoss_runAll {steps : List Step} {s : State} (h : s.options.Intact)
    (harmless : Step.AllHarmless steps) (outside : ∀ step ∈ steps, step.isLocal = true) :
    (Step.runAll steps s).1.options.warnPrecisionLoss =
      (steps.filterMap Step.settings?).foldl Options.valueAfter s.options.warnPrecisionLoss := by
  induction steps generalizing s with
  | nil => rfl
  | cons step rest ih =>
    obtain ⟨own, others⟩ := List.forall_mem_cons.mp outside
    rw [Step.AllHarmless] at harmless
    have first := Step.warnPrecisionLoss_run h harmless.1 own
    rw [Step.runAll, List.filterMap_cons]
    show (Step.runAll rest (Step.run step s).1).1.options.warnPrecisionLoss = _
    rw [ih (Step.intact_run step h harmless.1) harmless.2 others, first]
    cases step.settings? with
    | none => rfl
    | some settings => rfl

theorem Step.filterMap_settings?_withoutBlocks (steps : List Step) :
    (Step.withoutBlocks steps).filterMap Step.settings? = steps.filterMap Step.settings? := by
  induction steps with
  | nil => rfl
  | cons step rest ih =>
    cases step with
    | act action =>
      have kept : Step.withoutBlocks (.act action :: rest) =
          .act action :: Step.withoutBlocks rest := rfl
      rw [kept, List.filterMap_cons, List.filterMap_cons, ih]
    | block settings steps final =>
      have dropped : Step.withoutBlocks (.block settings steps final :: rest) =
          Step.withoutBlocks rest := rfl
      rw [dropped, ih]
      rfl

theorem Step.allHarmless_withoutBlocks {steps : List Step} (h : Step.AllHarmless steps) :
    Step.AllHarmless (Step.withoutBlocks steps) := by
  induction steps with
  | nil => exact h
  | cons step rest ih =>
    rw [Step.AllHarmless] at h
    rw [Step.withoutBlocks, List.filter_cons]
    split
    · rw [Step.AllHarmless]
      exact ⟨h.1, ih h.2⟩
    · exact ih h.2

theorem Step.isLocal_withoutBlocks {steps : List Step} (h : ∀ step ∈ steps, step.isLocal = true) :
    ∀ step ∈ Step.withoutBlocks steps, step.isLocal = true := by
  intro step hstep
  exact h step (List.mem_filter.mp hstep).1

/-! ## The actions of a run -/

/-- An action with the state that it finds. -/
structure Visit where
  state : State
  action : Action

namespace Visit

def after (v : Visit) : State :=
  (v.state.act v.action).1

def outcome (v : Visit) : Except Error Answer :=
  (v.state.act v.action).2

end Visit

mutual

/-- The actions of a step in their order, those inside blocks included. -/
def Step.visits : Step → State → List Visit
  | .act action, s => [⟨s, action⟩]
  | .block settings steps _, s =>
    match s.options.enter settings with
    | (_, .error _) => []
    | (o, .ok _) => Step.allVisits steps { s with options := o }

def Step.allVisits : List Step → State → List Visit
  | [], _ => []
  | step :: rest, s => Step.visits step s ++ Step.allVisits rest (Step.run step s).1

end

mutual

/-- What is reported of the actions of a step, each with the options after it. -/
def Report.outcomes : Report → List (Except Error Answer × Options)
  | .action outcome o => [(outcome, o)]
  | .refused _ _ => []
  | .block reports _ _ => Report.allOutcomes reports

def Report.allOutcomes : List Report → List (Except Error Answer × Options)
  | [] => []
  | report :: rest => Report.outcomes report ++ Report.allOutcomes rest

end

mutual

/-- The visits are those that the reports of the run tell of. -/
theorem Step.outcomes_run (step : Step) (s : State) :
    Report.outcomes (Step.run step s).2 =
      (Step.visits step s).map fun v => (v.outcome, v.after.options) := by
  cases step with
  | act action => rfl
  | block settings steps final =>
    rw [Step.run, Step.visits]
    rcases s.options.enter settings with ⟨o, e | old⟩
    · rfl
    · exact Step.outcomes_runAll steps { s with options := o }

theorem Step.outcomes_runAll (steps : List Step) (s : State) :
    Report.allOutcomes (Step.runAll steps s).2 =
      (Step.allVisits steps s).map fun v => (v.outcome, v.after.options) := by
  cases steps with
  | nil => rfl
  | cons step rest =>
    rw [Step.runAll, Step.allVisits, List.map_append, ← Step.outcomes_run, ← Step.outcomes_runAll]
    rfl

end

/-! ## What a context will give back -/

/-- The action enters or leaves this very context. -/
def Action.names (context : String) : Action → Bool
  | .enter c _ | .exit c => c == context
  | _ => false

/-- No action touches what another context will give back. -/
theorem State.get?_contexts_act {action : Action} {context : String}
    (h : action.names context = false) (s : State) :
    (s.act action).1.contexts.get? context = s.contexts.get? context := by
  cases action with
  | enter c settings =>
    have other : c ≠ context := by simpa [Action.names] using h
    show (s.enter c settings).1.contexts.get? context = _
    rw [State.enter]
    split
    · rfl
    · next o old _ =>
      show (s.contexts.put c old).get? context = _
      rw [Bindings.get?_put, if_neg other]
  | exit c =>
    have other : c ≠ context := by simpa [Action.names] using h
    show (s.exit c).1.contexts.get? context = _
    rw [State.exit]
    split
    · rfl
    · show (s.contexts.erase c).get? context = _
      rw [Bindings.get?_erase, if_neg other]
  | new slot v =>
    show (s.new slot v).1.contexts.get? context = _
    rw [State.new]
    split
    · rfl
    · rfl
  | setOptions settings =>
    show (s.setOptions settings).1.contexts.get? context = _
    rw [State.setOptions]
    split
    · rfl
    · rfl
  | view | compare | distinct | assign | delete | isFormula | check | getOption => rfl

/-- A context that is entered keeps the value that the option had. -/
theorem State.get?_contexts_enter {s : State} {context : String} {settings : Settings}
    (h : s.options.Described) (entered : (s.enter context settings).2 = .ok .done) :
    (s.enter context settings).1.contexts.get? context =
      some (some s.options.warnPrecisionLoss) := by
  unfold State.enter at entered ⊢
  rcases hu : s.options.enter settings with ⟨o, e | old⟩
  · rw [hu] at entered
    contradiction
  · show (s.contexts.put context old).get? context = _
    rw [Bindings.get?_put, if_pos rfl, h.eq_of_enter (congrArg Prod.snd hu)]

theorem State.warnPrecisionLoss_enter {s : State} {context : String} {settings : Settings}
    {e : Error} (h : s.options.Described) (failed : (s.enter context settings).2 = .error e) :
    (s.enter context settings).1.options.warnPrecisionLoss = s.options.warnPrecisionLoss := by
  unfold State.enter at failed ⊢
  rcases hu : s.options.enter settings with ⟨o, e | old⟩
  · have kept := h.warnPrecisionLoss_enter (congrArg Prod.snd hu)
    rw [hu] at kept
    exact kept
  · rw [hu] at failed
    contradiction

theorem State.exit_of_get? {s : State} {context : String} {old : Option Value}
    (h : s.contexts.get? context = some old) :
    s.exit context =
      (⟨s.options.restore old, s.slots, s.contexts.erase context⟩, .ok .done) := by
  rw [State.exit, h]

/-- Each visit finds the contexts that the one before left, from the first to the last. -/
inductive HandsOn : Bindings (Option Value) → List Visit → Bindings (Option Value) → Prop
  | nil {contexts : Bindings (Option Value)} : HandsOn contexts [] contexts
  | cons {v : Visit} {rest : List Visit} {last : Bindings (Option Value)}
      (h : HandsOn v.after.contexts rest last) : HandsOn v.state.contexts (v :: rest) last

theorem HandsOn.append {a b c : Bindings (Option Value)} {vs ws : List Visit} (hv : HandsOn a vs b)
    (hw : HandsOn b ws c) : HandsOn a (vs ++ ws) c := by
  induction hv with
  | nil => exact hw
  | cons _ ih => exact .cons (ih hw)

theorem HandsOn.of_append {a c : Bindings (Option Value)} {vs ws : List Visit}
    (h : HandsOn a (vs ++ ws) c) : ∃ b, HandsOn a vs b ∧ HandsOn b ws c := by
  induction vs generalizing a with
  | nil => exact ⟨a, .nil, h⟩
  | cons v vs ih =>
    cases h with
    | cons h =>
      obtain ⟨b, hv, hw⟩ := ih h
      exact ⟨b, .cons hv, hw⟩

theorem HandsOn.get?_eq {a b : Bindings (Option Value)} {vs : List Visit} {context : String}
    (h : HandsOn a vs b) (other : ∀ v ∈ vs, v.action.names context = false) :
    b.get? context = a.get? context := by
  induction h with
  | nil => rfl
  | @cons v rest last _ ih =>
    obtain ⟨hv, hrest⟩ := List.forall_mem_cons.mp other
    rw [ih hrest]
    exact State.get?_contexts_act hv v.state

mutual

/-- Neither the entry nor the end of a block changes what contexts will give back. -/
theorem Step.handsOn_visits (step : Step) (s : State) :
    HandsOn s.contexts (Step.visits step s) (Step.run step s).1.contexts := by
  cases step with
  | act action =>
    rw [Step.visits, Step.run]
    exact .cons (v := ⟨s, action⟩) .nil
  | block settings steps final =>
    rw [Step.visits, Step.run]
    rcases s.options.enter settings with ⟨o, e | old⟩
    · exact .nil
    · exact Step.handsOn_allVisits steps { s with options := o }

theorem Step.handsOn_allVisits (steps : List Step) (s : State) :
    HandsOn s.contexts (Step.allVisits steps s) (Step.runAll steps s).1.contexts := by
  cases steps with
  | nil => exact .nil
  | cons step rest =>
    rw [Step.allVisits, Step.runAll]
    exact (Step.handsOn_visits step s).append (Step.handsOn_allVisits rest (Step.run step s).1)

end

/-- Between the entry of a context and its end, whatever happens, it keeps what it will give back. -/
theorem HandsOn.exit {first last : Bindings (Option Value)} {early between late : List Visit}
    {s t : State} {context : String} {settings : Settings}
    (h : HandsOn first (early ++ ⟨s, .enter context settings⟩ ::
      (between ++ ⟨t, .exit context⟩ :: late)) last)
    (described : s.options.Described) (entered : (s.enter context settings).2 = .ok .done)
    (other : ∀ v ∈ between, v.action.names context = false) :
    t.contexts.get? context = some (some s.options.warnPrecisionLoss) := by
  obtain ⟨_, -, h⟩ := h.of_append
  cases h with
  | cons h =>
    obtain ⟨middle, hbetween, hexit⟩ := h.of_append
    cases hexit with
    | cons _ =>
      rw [hbetween.get?_eq other]
      exact State.get?_contexts_enter described entered

/-- Blocks and contexts give the option back. Take a program that enters and leaves no context outside of its
blocks, sets no name by which the options work, and starts with options as they were made. It ends with the
value of the option that it has without the blocks: the one that its settings give, each up to its first name
that cannot be set. In any run, the option has after leaving a context the value that it had before the
context was entered, if the context was not entered or left in between; and what cannot be entered leaves the
option its value. -/
theorem Step.options_restored (steps : List Step) (s : State) :
    (s.options.Intact → Step.AllHarmless steps → (∀ step ∈ steps, step.isLocal = true) →
      (Step.runAll steps s).1.options.warnPrecisionLoss =
        (Step.runAll (Step.withoutBlocks steps) s).1.options.warnPrecisionLoss ∧
      (Step.runAll steps s).1.options.warnPrecisionLoss =
        (steps.filterMap Step.settings?).foldl Options.valueAfter s.options.warnPrecisionLoss) ∧
    Report.allOutcomes (Step.runAll steps s).2 =
      (Step.allVisits steps s).map (fun v => (v.outcome, v.after.options)) ∧
    (∀ early between late context settings enter exit,
      Step.allVisits steps s = early ++ enter :: (between ++ exit :: late) →
      enter.action = .enter context settings → exit.action = .exit context →
      enter.state.options.Described → enter.outcome = .ok .done →
      (∀ v ∈ between, v.action.names context = false) →
        exit.outcome = .ok .done ∧
        exit.after.options.warnPrecisionLoss = enter.state.options.warnPrecisionLoss) ∧
    ∀ v ∈ Step.allVisits steps s, ∀ context settings e, v.action = .enter context settings →
      v.state.options.Described → v.outcome = .error e →
        v.after.options.warnPrecisionLoss = v.state.options.warnPrecisionLoss := by
  refine ⟨fun intact harmless outside => ?_, Step.outcomes_runAll steps s, ?_, ?_⟩
  · have all := Step.warnPrecisionLoss_runAll intact harmless outside
    refine ⟨?_, all⟩
    rw [all, Step.warnPrecisionLoss_runAll intact (Step.allHarmless_withoutBlocks harmless)
      (Step.isLocal_withoutBlocks outside), Step.filterMap_settings?_withoutBlocks]
  · rintro early between late context settings ⟨s₁, _⟩ ⟨s₂, _⟩ run rfl rfl described entered other
    have chain := Step.handsOn_allVisits steps s
    rw [run] at chain
    have left := State.exit_of_get? (chain.exit described entered other)
    refine ⟨congrArg Prod.snd left, ?_⟩
    show (s₂.exit context).1.options.warnPrecisionLoss = _
    rw [left]
    exact Options.warnPrecisionLoss_restore _ _
  · rintro ⟨s₁, _⟩ - context settings e rfl described failed
    exact State.warnPrecisionLoss_enter described failed

/-- The option is set behind a name that can be set, and not set behind one that cannot. In a block two
contexts are entered: one is left before an inner block is, by a rejection, and the other one behind it. A
third one cannot be entered. -/
def crossingSession : List Step :=
  [.act (.setOptions [("__doc__", .null), ("warn_precision_loss", .int 7)]),
    .act (.setOptions [("colour", .null), ("warn_precision_loss", .int 8)]),
    .block []
      [.act (.enter "a" [("warn_precision_loss", .flag false)]),
        .block [("warn_precision_loss", .int 1)]
          [.act (.enter "b" [("warn_precision_loss", .null)]), .act (.exit "a")]
          (some (.text "2 3")),
        .act (.enter "c" [("warn_precision_loss", .int 2), ("colour", .null)]),
        .act (.exit "b")]
      none]

theorem Step.options_restored_crossing :
    State.initial.options.Intact ∧ Step.AllHarmless crossingSession ∧
    (∀ step ∈ crossingSession, step.isLocal = true) ∧
    (Step.runAll crossingSession .initial).1.options.warnPrecisionLoss = .int 7 ∧
    ∃ early between late enter exit failed,
      Step.allVisits crossingSession .initial = early ++ enter :: (between ++ exit :: late) ∧
      enter.action = .enter "b" [("warn_precision_loss", .null)] ∧ exit.action = .exit "b" ∧
      enter.state.options.Described ∧ enter.outcome = .ok .done ∧
      (∀ v ∈ between, v.action.names "b" = false) ∧ exit.outcome = .ok .done ∧
      exit.after.options.warnPrecisionLoss = enter.state.options.warnPrecisionLoss ∧
      enter.state.options.warnPrecisionLoss = .int 1 ∧
      failed ∈ between ∧ failed.outcome = .error (.option (.unknown "colour")) ∧
      failed.after.options.warnPrecisionLoss = failed.state.options.warnPrecisionLoss := by
  obtain ⟨blocks, -, contexts, failures⟩ := Step.options_restored crossingSession .initial
  have intact : State.initial.options.Intact := Options.intact_option _
  have harmless : Step.AllHarmless crossingSession := by
    simp [crossingSession, Step.AllHarmless, Step.Harmless, Options.Harmless, Action.settings,
      Options.workingNames]
  have outside : ∀ step ∈ crossingSession, step.isLocal = true := by
    simp [crossingSession, Step.isLocal, Action.isAboutContexts]
  have others : ∀ v ∈ ((Step.allVisits crossingSession .initial).drop 4).take 2,
      v.action.names "b" = false :=
    List.forall_mem_cons.mpr ⟨rfl, List.forall_mem_singleton.mpr rfl⟩
  obtain ⟨left, restored⟩ :=
    contexts [_, _, _] [_, _] [] "b" _ _ _ rfl rfl rfl (.of_unset rfl) rfl others
  refine ⟨intact, harmless, outside, (blocks intact harmless outside).2, [_, _, _], [_, _], [], _, _, _,
    rfl, rfl, rfl, .of_unset rfl, rfl, others, left, restored, rfl, .tail _ (.head _), rfl, ?_⟩
  -- the third context is entered by the sixth action of the run
  have sixth : (Step.allVisits crossingSession .initial)[5] ∈ Step.allVisits crossingSession .initial :=
    List.getElem_mem _
  exact failures _ sixth "c" _ _ rfl (.of_unset rfl) rfl

/-- A block replaces the attributes of the options, and behind it a name is known that was not before. -/
def recordSession : List Step :=
  [.block [("__dict__", .record [("colour", .int 1)])] [] none,
    .act (.setOptions [("colour", .int 2), ("warn_precision_loss", .flag false)])]

/-- A block hides the function that makes settings. -/
def hidingSession : List Step :=
  [.block [("update", .int 0)] [] none, .act (.setOptions [("warn_precision_loss", .flag false)])]

/-- With such names a block changes what the settings behind it do: it makes more of them count, or none. -/
theorem Step.not_restored :
    (∀ step ∈ recordSession ++ hidingSession, step.isLocal = true) ∧
    (Step.runAll recordSession .initial).1.options.warnPrecisionLoss = .flag false ∧
    (Step.runAll (Step.withoutBlocks recordSession) .initial).1.options.warnPrecisionLoss =
      .flag true ∧
    (Step.runAll hidingSession .initial).1.options.warnPrecisionLoss = .flag true ∧
    (Step.runAll (Step.withoutBlocks hidingSession) .initial).1.options.warnPrecisionLoss =
      .flag false := by
  refine ⟨?_, rfl, rfl, rfl, rfl⟩
  simp [recordSession, hidingSession, Step.isLocal, Action.isAboutContexts]

end Session

end Formulary
