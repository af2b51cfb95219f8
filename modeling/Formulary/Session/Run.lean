import Formulary.Session.Step

/-!
# Running a session

The state of a session is the options, the formulas that are kept in slots, and the contexts that are
open. A context keeps what was found of the option when it was entered; leaving it gives that back, and
contexts may be left in any order. A name stands for one context: entering a second one under the same
name leaves the first, right after the second has been entered.

A block is a context without a name. What it found is given back whether its settings could not be made,
its steps ran to their end, or it was left by an error; the slots and contexts are those that its steps
leave behind.
-/

set_option autoImplicit false

namespace Formulary.Session

/-- Everything that one step can leave for the next. -/
structure State where
  options : Options
  /-- The formulas that are kept, by slot. -/
  slots : Bindings Formula
  /-- What each open context will give back, by name. -/
  contexts : Bindings (Option Value)

namespace State

/-- The state at the start: no formulas, no contexts. -/
def initial : State :=
  ⟨.initial, [], []⟩

/-- The formula in a slot. -/
def formula (s : State) (slot : String) : Except Error Formula :=
  match s.slots.get? slot with
  | some f => .ok f
  | none => .error (.unknownName slot)

/-- Compare the formulas in two slots; the first slot is looked up first. -/
def compare (s : State) (a b : String) : Except Error Answer :=
  match s.formula a, s.formula b with
  | .ok f, .ok g => .ok (.compared (.of f g))
  | .error e, _ => .error e
  | .ok _, .error e => .error e

/-- Set options; the settings before one that fails stay. -/
def setOptions (s : State) (settings : Settings) : State × Except Error Answer :=
  match s.options.update settings with
  | (o, none) => ({ s with options := o }, .ok .done)
  | (o, some e) => ({ s with options := o }, .error (.option e))

/-- Enter a context. One of the same name that is open is left. -/
def enter (s : State) (context : String) (settings : Settings) : State × Except Error Answer :=
  match s.options.enter settings with
  | (o, .error e) => ({ s with options := o }, .error (.option e))
  | (o, .ok old) =>
    (⟨(s.contexts.get? context).elim o o.restore, s.slots, s.contexts.put context old⟩, .ok .done)

/-- Leave a context. -/
def exit (s : State) (context : String) : State × Except Error Answer :=
  match s.contexts.get? context with
  | none => (s, .error (.unknownName context))
  | some old => (⟨s.options.restore old, s.slots, s.contexts.erase context⟩, .ok .done)

/-- Make a formula and keep it. -/
def new (s : State) (slot : String) (v : Value) : State × Except Error Answer :=
  match v.formula s.options.warns with
  | .error e => (s, .error (.input e))
  | .ok (f, warnings) =>
    ({ s with slots := s.slots.put slot f }, .ok (.built f.canonical warnings))

/-- Check the precision of a literal under the current options. -/
def check (s : State) (text : String) : Except Error Answer :=
  match checkPrecision s.options.warns text with
  | .error e => .error (.input (.number e))
  | .ok warnings => .ok (.warned warnings)

/-- Read an option. -/
def getOption (s : State) (name : String) : Except Error Answer :=
  match s.options.get? name with
  | some found => .ok (.option found)
  | none => .error (.option (.unknown name))

/-- What an action does to the state, and its outcome. -/
def act (s : State) : Action → State × Except Error Answer
  | .new slot v => s.new slot v
  | .view slot => (s, (s.formula slot).map .viewed)
  | .compare a b => (s, s.compare a b)
  | .distinct slots =>
    (s, (slots.mapM s.formula).map fun fs => .members (Formula.sortedSet (fs.map (·.canonical))))
  | .assign slot field => (s, (s.formula slot).bind fun _ => .error (.assigned field))
  | .delete slot field => (s, (s.formula slot).bind fun _ => .error (.deleted field))
  | .isFormula v => (s, .ok (.validity v.isFormula))
  | .check text => (s, s.check text)
  | .setOptions settings => s.setOptions settings
  | .getOption name => (s, s.getOption name)
  | .enter context settings => s.enter context settings
  | .exit context => s.exit context

end State

/-- The error of the formula at the end of a block, if there is one and it fails. -/
def finalError (o : Options) (final : Option Value) : Option Error :=
  match final with
  | none => none
  | some v =>
    match v.formula o.warns with
    | .ok _ => none
    | .error e => some (.input e)

mutual

/-- Run one step. -/
def Step.run : Step → State → State × Report
  | .act action, s =>
    let result := s.act action
    (result.1, .action result.2 result.1.options)
  | .block settings steps final, s =>
    match s.options.enter settings with
    | (o, .error e) => ({ s with options := o }, .refused (.option e) o)
    | (o, .ok old) =>
      let inner := Step.runAll steps { s with options := o }
      let after := inner.1.options.restore old
      ({ inner.1 with options := after },
        .block inner.2 (finalError inner.1.options final) after)

/-- Run steps one after the other. -/
def Step.runAll : List Step → State → State × List Report
  | [], s => (s, [])
  | step :: rest, s =>
    let first := Step.run step s
    let others := Step.runAll rest first.1
    (others.1, first.2 :: others.2)

end

/-- The reports of a whole session. -/
def run (steps : List Step) : List Report :=
  (Step.runAll steps State.initial).2

end Formulary.Session
