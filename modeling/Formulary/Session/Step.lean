import Formulary.Formula
import Formulary.Session.Options

/-!
# Steps and reports of a session

A session is a list of steps. Most steps are a single `Action`; the other kind is a *block*, which
sets options for the steps inside it and gives the option its old value back afterwards, whatever
happens.

Every step is answered by a `Report`, which carries the options as they are after the step. An action
is answered by an `Answer` or by a `Session.Error`, which ends that action and not the session.
-/

set_option autoImplicit false

namespace Formulary.Session

/-- Why an action fails. -/
inductive Error
  /-- The input gives no formula. -/
  | input (e : Formulary.Error)
  /-- The options cannot be set, read or kept. -/
  | option (e : Options.Error)
  /-- Nothing is kept under this name. -/
  | unknownName (name : String)
  | assigned (field : String)
  | deleted (field : String)
deriving Repr

/-- The wording of the error. -/
def Error.message : Error → String
  | .input e => e.message
  | .option e => e.message
  | .unknownName name => name
  | .assigned field => "cannot assign to field " ++ Text.quoted field
  | .deleted field => "cannot delete field " ++ Text.quoted field

/-- A step without steps inside it. -/
inductive Action
  /-- Make a formula and keep it in a slot. -/
  | new (slot : String) (formula : Value)
  | view (slot : String)
  | compare (a b : String)
  /-- Collect the different formulas in some slots. -/
  | distinct (slots : List String)
  | assign (slot field : String)
  | delete (slot field : String)
  | isFormula (formula : Value)
  | check (text : String)
  | setOptions (settings : Settings)
  | getOption (name : String)
  /-- Set options until a context is left. -/
  | enter (context : String) (settings : Settings)
  | exit (context : String)

/-- A step of a session. -/
inductive Step
  | act (action : Action)
  /-- Steps under changed options, and then perhaps a formula whose failure leaves the block. -/
  | block (settings : Settings) (steps : List Step) (final : Option Value)

/-- How two formulas compare. -/
structure Comparison where
  equal : Bool
  different : Bool
  /-- They have the same key in a look-up. -/
  sameKey : Bool
  /-- The first equals the canonical text of the second, as a text. -/
  equalsText : Bool
  sameTokens : Bool
deriving DecidableEq, Repr

/-- Formulas are keyed by their canonical text. A formula is no text and equals none. -/
def Comparison.of (a b : Formula) : Comparison where
  equal := a == b
  different := a != b
  sameKey := a.canonical == b.canonical
  equalsText := false
  sameTokens := a.tokens == b.tokens

/-- What an action that does not fail answers. -/
inductive Answer
  | built (canonical : String) (warnings : List Warning)
  | viewed (formula : Formula)
  | compared (comparison : Comparison)
  /-- The canonical texts of the different formulas, sorted. -/
  | members (texts : List String)
  | validity (valid : Bool)
  | warned (warnings : List Warning)
  | option (found : Options.Attribute)
  | done

/-- What is reported of a step, with the options after it. -/
inductive Report
  | action (outcome : Except Error Answer) (options : Options)
  /-- A block that was not entered. -/
  | refused (error : Error) (options : Options)
  /-- A block that was run, with the error that left it, if one did. -/
  | block (reports : List Report) (error : Option Error) (options : Options)

end Formulary.Session
