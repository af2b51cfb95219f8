import Formulary.Error
import Formulary.Grammar
import Formulary.Precision
import Formulary.Token.Scan

/-!
# Formulas

A formula is a sequence of tokens that follows the grammar, with the canonical text of each token. Both
facts are part of the type: there is no `Formula` whose tokens would be rejected, and none with a number
that cannot be written.

The canonical texts, joined without anything between them, are the canonical text of the formula, and
formulas are compared by it: `x1 + 5.0` and `X1+5` are the same formula.
-/

set_option autoImplicit false

namespace Formulary

/-- A well formed formula. -/
structure Formula where
  /-- The tokens, as they were written. -/
  tokens : List Token
  /-- The canonical text of each token. -/
  texts : List String
  /-- The tokens follow the grammar. -/
  accepted : Grammar.rejection? tokens = none
  /-- The texts are those of the tokens. -/
  texts_eq : tokens.mapM Token.canonical = .ok texts

namespace Formula

/-! ## Views -/

/-- The canonical text. -/
def canonical (f : Formula) : String :=
  String.join f.texts

/-- The canonical text as it is shown in a session. -/
def shown (f : Formula) : String :=
  "Formula(" ++ Text.quoted f.canonical ++ ")"

/-- Texts in increasing order, each once. -/
def sortedSet (texts : List String) : List String :=
  texts.eraseDups.mergeSort fun a b => decide (a ≤ b)

/-- The variables of the formula in their canonical spelling, sorted, each once. -/
def variableNames (f : Formula) : List String :=
  sortedSet (((f.tokens.zip f.texts).filter fun p => p.1.kind == .var).map Prod.snd)

/-- Formulas are equal when their canonical texts are. -/
instance : BEq Formula :=
  ⟨fun a b => a.canonical == b.canonical⟩

/-! ## Construction -/

/-- The formula that some tokens form. -/
def ofTokens (tokens : List Token) : Except Error Formula :=
  match accepted : Grammar.rejection? tokens with
  | some r => .error (.rejected r)
  | none =>
    match texts_eq : tokens.mapM Token.canonical with
    | .error e => .error (.number e)
    | .ok texts => .ok ⟨tokens, texts, accepted, texts_eq⟩

/-- The formula that a text writes, and the warnings about it if they are wanted. -/
def parse (warn : Bool) (text : String) : Except Error (Formula × List Warning) :=
  match ofTokens (scan text) with
  | .error e => .error e
  | .ok f =>
    match precisionWarnings warn f.tokens with
    | .error e => .error (.number e)
    | .ok warnings => .ok (f, warnings)

end Formula

namespace Value

/-- The text that a value is, if it is one. -/
def asText : Value → Except Error String
  | .text s => .ok s
  | v => .error (.notText v)

/-- The tokens of a value, if it is a text. -/
def tokens (v : Value) : Except Error (List Token) :=
  v.asText.map scan

/-- The formula that a value writes, if it is a text that writes one. -/
def formula (warn : Bool) (v : Value) : Except Error (Formula × List Warning) :=
  v.asText.bind (Formula.parse warn)

/-- The value is a text that writes a formula. Nothing is ever warned about. -/
def isFormula : Value → Bool
  | .text s => (Grammar.diagnose (scan s)).isNone
  | _ => false

end Value

end Formulary
