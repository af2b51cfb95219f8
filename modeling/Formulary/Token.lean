import Formulary.Number.Reading
import Formulary.Text.Capital

/-!
# Tokens

A token is a kind and a text. Tokens come from scanning a formula, but they can also be made by hand,
so the type does not tie the text to the kind; `Token.hasShape` says whether they fit, and
`Token.isSound` asks in addition that a number is not too large for a double.

The canonical text of a token is what stands for it in the canonical text of a formula: numbers are
normalised, the letters of variables are capital, and everything else is kept.
-/

set_option autoImplicit false

namespace Formulary

/-- What a token is. -/
inductive Token.Kind
  | number
  | var
  /-- One of the four arithmetic operators. -/
  | operator
  | openParen
  | closeParen
  /-- Anything else. -/
  | unrecognized
deriving DecidableEq, Repr

/-- A lexical unit of a formula. -/
structure Token where
  kind : Token.Kind
  text : String
deriving DecidableEq, Repr

namespace Token

/-! ## Kinds -/

/-- Numbers and variables are values. -/
def Kind.isValue : Kind → Bool
  | .number | .var => true
  | _ => false

/-- The word for a kind. -/
def Kind.word : Kind → String
  | .number => "number"
  | .var => "variable"
  | .operator => "operator"
  | .openParen => "left_paren"
  | .closeParen => "right_paren"
  | .unrecognized => "unrecognized"

/-- All kinds. -/
def Kind.all : List Kind :=
  [.number, .var, .operator, .openParen, .closeParen, .unrecognized]

/-- The kind that a word stands for. -/
def Kind.ofWord? (word : String) : Option Kind :=
  Kind.all.find? fun k => k.word == word

/-- The complaint about a word that stands for no kind. -/
def Kind.unknownMessage (word : String) : String :=
  Text.quoted word ++ " is not a valid TokenKind"

/-! ## Shapes -/

/-- The four operators. -/
def isOperatorChar (c : Char) : Bool :=
  c == '+' || c == '-' || c == '*' || c == '/'

/-- The name of a variable is letters and then digits, at least one of each. -/
def isVariableName (s : List Char) : Bool :=
  !(s.takeWhile Char.isAlpha).isEmpty && !(s.dropWhile Char.isAlpha).isEmpty &&
    (s.dropWhile Char.isAlpha).all Char.isDigit

/-- A text that is one operator. -/
def isOperatorText : List Char → Bool
  | [c] => isOperatorChar c
  | _ => false

/-- The text is one that the kind allows. No text fits an unrecognized token. -/
def hasShape (t : Token) : Bool :=
  match t.kind with
  | .number => (Literal.ofChars? t.text.toList).isSome
  | .var => isVariableName t.text.toList
  | .operator => isOperatorText t.text.toList
  | .openParen => t.text == "("
  | .closeParen => t.text == ")"
  | .unrecognized => false

/-- What is asked of a token by itself: its shape, and then, of a number, that its double is finite. Reading
the number is the one step that could fail, and only a text with the shape of a number is read. -/
def examine (t : Token) : Except NumberError Bool :=
  if t.hasShape then
    match t.kind with
    | .number => (Binary64.read t.text).map Binary64.isFinite
    | _ => .ok true
  else .ok false

/-- The token can stand in a formula as far as it alone is concerned. -/
def isSound (t : Token) : Bool :=
  match t.examine with
  | .ok sound => sound
  | .error _ => false

/-! ## Canonical text -/

/-- What stands for the token in the canonical text of a formula. -/
def canonical (t : Token) : Except NumberError String :=
  match t.kind with
  | .number => Binary64.normalize t.text
  | .var => .ok (Text.inCapitals t.text)
  | _ => .ok t.text

end Token

end Formulary
