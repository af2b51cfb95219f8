import Formulary.Rejection
import Formulary.Value

/-!
# What can be wrong with an input

An input that is meant to be a formula may be no text, may be a text that is no formula, or, as far as
the types go, may contain a number that cannot be read or written.
-/

set_option autoImplicit false

namespace Formulary

/-- Why an input gives no formula. -/
inductive Error
  | notText (given : Value)
  /-- Its tokens do not follow the grammar. -/
  | rejected (r : Rejection)
  /-- One of its numbers has no double, or no text. -/
  | number (e : NumberError)
deriving Repr

/-- The wording of the error. -/
def Error.message : Error → String
  | .notText given => "Formula must be a string, got " ++ given.typeName ++ "."
  | .rejected r => r.message
  | .number e => e.message

end Formulary
