import Formulary.Rejection

/-!
# The grammar of formulas

Formulas are checked in one pass from left to right. What a rule may look at is the token itself, the
kind of the token before it, how many parentheses are open, and whether the token is the last one: a
`Place`. The rules are tried in a fixed order, `Place.fault?`, and the first one that is broken is
reported; the pass stops at the first token that breaks any.

Each rule forbids one situation, and what no rule forbids is allowed. In particular a parenthesis may
stand directly beside a value or another parenthesis: `2(3)`, `(1)(2)` and `(1)2` are formulas, while
`2 3` is not.
-/

set_option autoImplicit false

namespace Formulary.Grammar

/-- What the rules see of a token's surroundings. -/
structure Place where
  /-- The kind of the token before, or nothing at the start. -/
  before : Option Token.Kind
  /-- The number of parentheses that are open. -/
  depth : Nat
  /-- No token follows. -/
  isLast : Bool
deriving DecidableEq, Repr

/-- The kind can only stand after something. -/
def needsLeft (k : Token.Kind) : Bool :=
  k == .operator || k == .closeParen

/-- The first rule that a token breaks at a place. -/
def Place.fault? (p : Place) (t : Token) : Option Fault :=
  if !t.isSound then some .invalidToken
  else if p.before == none && needsLeft t.kind then some .invalidStart
  else if p.isLast && t.kind == .operator then some .invalidEnd
  else if p.isLast && t.kind == .openParen then some .unbalancedParens
  else if t.kind == .closeParen && p.depth == 0 then some .unbalancedParens
  else if p.before == some .operator && t.kind == .operator then some .consecutiveOperators
  else if p.before.any Token.Kind.isValue && t.kind.isValue then some .missingOperator
  else if p.before == some .openParen && needsLeft t.kind then some .invalidAfterOpenParen
  else if t.kind == .closeParen && p.before == some .operator then some .invalidBeforeCloseParen
  else none

/-- The number of open parentheses after a token. -/
def depthAfter (depth : Nat) : Token.Kind → Nat
  | .openParen => depth + 1
  | .closeParen => depth - 1
  | _ => depth

/-- The pass over the tokens from a given place on; `position` counts the tokens before. -/
def walk (before : Option Token.Kind) (depth position : Nat) : List Token → Option Rejection
  | [] => if depth = 0 then none else some ⟨.unbalancedParens, none, none⟩
  | t :: rest =>
    match Place.fault? ⟨before, depth, rest.isEmpty⟩ t with
    | some f => some ⟨f, some t, some position⟩
    | none => walk (some t.kind) (depthAfter depth t.kind) (position + 1) rest

/-- Why a sequence of tokens is no formula, or nothing if it is one. -/
def rejection? (tokens : List Token) : Option Rejection :=
  if tokens.isEmpty then some ⟨.emptyFormula, none, none⟩ else walk none 0 0 tokens

/-- The tokens themselves, if they form a formula. -/
def validate (tokens : List Token) : Except Rejection (List Token) :=
  match rejection? tokens with
  | some r => .error r
  | none => .ok tokens

/-- The rule that a sequence of tokens breaks, or nothing if it is a formula. -/
def diagnose (tokens : List Token) : Option Fault :=
  (rejection? tokens).map Rejection.fault

end Formulary.Grammar
