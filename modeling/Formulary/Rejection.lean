import Formulary.Token

/-!
# Rejections

A sequence of tokens that is no formula is rejected for exactly one reason, a `Fault`, and a
`Rejection` says which token showed it and where. Two rejections are about the sequence as a whole
and have no token: the empty one, and the one that ends with a parenthesis still open.

The wording of every rejection is here and nowhere else.
-/

set_option autoImplicit false

namespace Formulary

/-- The rule that a sequence of tokens breaks. -/
inductive Fault
  | emptyFormula
  /-- A token has the wrong shape, or is a number too large for a double. -/
  | invalidToken
  /-- A formula does not start with an operator or a closing parenthesis. -/
  | invalidStart
  /-- A formula does not end with an operator. -/
  | invalidEnd
  /-- Parentheses come in pairs. -/
  | unbalancedParens
  | consecutiveOperators
  | missingOperator
  /-- An operator or a closing parenthesis does not follow an opening parenthesis. -/
  | invalidAfterOpenParen
  /-- A closing parenthesis does not follow an operator. -/
  | invalidBeforeCloseParen
deriving DecidableEq, Repr

/-- The rule in words. -/
def Fault.text : Fault → String
  | .emptyFormula => "Empty formula"
  | .invalidToken => "Invalid token"
  | .invalidStart => "Invalid first token"
  | .invalidEnd => "Invalid last token"
  | .unbalancedParens => "Mismatched parentheses"
  | .consecutiveOperators => "Consecutive operators"
  | .missingOperator => "Missing operator between values"
  | .invalidAfterOpenParen => "Invalid token after opening parenthesis"
  | .invalidBeforeCloseParen => "Invalid token before closing parenthesis"

/-- Why, and where, a sequence of tokens is no formula. -/
structure Rejection where
  fault : Fault
  /-- The token that breaks it, if a single token does. -/
  token : Option Token
  /-- The place of that token, counted from zero. Rejections made by hand may name any place. -/
  position : Option Int
deriving DecidableEq, Repr

namespace Rejection

/-- A place in a message. -/
def placeText : Option Int → String
  | none => "None"
  | some p => toString p

/-- The wording of a rejection: the rule, and the token that breaks it, if there is one. -/
def message (r : Rejection) : String :=
  match r.token with
  | none => r.fault.text
  | some t => r.fault.text ++ ": '" ++ t.text ++ "' at position " ++ placeText r.position

end Rejection

end Formulary
