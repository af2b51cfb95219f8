import Formulary.Token

/-!
# Loss of precision

A numeric literal with more significant digits than a double can hold is rounded when it becomes part
of a formula. That is no error, but it is worth a warning, which shows the literal and the number that
takes its place.

The digits are counted on the text: what stands before the exponent, without the point and without the
zeros at either end. The count is defined on every text, because the check can be asked of any.
-/

set_option autoImplicit false

namespace Formulary

/-- A literal is not kept as it was written. -/
structure Warning where
  literal : String
  /-- The number that takes its place. -/
  replacement : String
deriving DecidableEq, Repr

/-- The wording of the warning. -/
def Warning.message (w : Warning) : String :=
  "The numeric literal '" ++ w.literal ++
    "' has more significant digits than a double can hold and is normalized to '" ++
    w.replacement ++ "'."

/-- The digits of a literal before its exponent, without the point. -/
def mantissaDigits (s : List Char) : List Char :=
  (s.takeWhile fun c => !Literal.isMark c).filter (· ≠ '.')

/-- How many digits are left when the zeros at either end are taken away. -/
def significantDigits (s : List Char) : Nat :=
  (Text.trim (· == '0') (mantissaDigits s)).length

/-- The warnings about one literal: none if they are switched off or the digits are few enough. The
replacement is only computed for a warning, so that only then it can fail. -/
def checkPrecision (warn : Bool) (text : String) : Except NumberError (List Warning) :=
  if warn && decide (Binary64.maxDigits < significantDigits text.toList) then
    (Binary64.normalize text).map fun replacement => [⟨text, replacement⟩]
  else .ok []

/-- The warnings about the numbers among some tokens, in their order. -/
def precisionWarnings (warn : Bool) (tokens : List Token) : Except NumberError (List Warning) :=
  ((tokens.filter (·.kind == .number)).mapM fun t => checkPrecision warn t.text).map List.flatten

end Formulary
