import Formulary.Text.Digit
import Formulary.Text.Quoted
import Formulary.Text.Trim
import Formulary.Number.Literal
import Formulary.Number.Rendering

/-!
# Reading any text as a number

The scanner of formulas only ever produces numeric literals, but tokens can also be made by hand, with
any text. Reading is therefore defined on every text, and is more generous than the literals of a
formula: a margin of blanks is ignored, the digits may be those of any script, a sign may stand in
front, single underscores may group the digits, and infinity and NaN can be named in any letter case.
On a literal it gives the double nearest to the literal's value.

What can go wrong is of two kinds, and they are the constructors of `NumberError`: a text that is no
number, and a number that has no text in a formula because it is not finite.
-/

set_option autoImplicit false

namespace Formulary

/-- Why a number could not be read or written. -/
inductive NumberError
  | unreadable (text : String)
  /-- The number is an infinity or a NaN. -/
  | notFinite (value : Binary64)
deriving DecidableEq, Repr

/-- The wording of the two errors. -/
def NumberError.message : NumberError → String
  | .unreadable text => "could not convert string to float: " ++ Text.quoted text
  | .notFinite value => "Cannot render non-finite number " ++ value.specialText ++ "."

namespace Binary64

/-! ## Parts of a text -/

/-- The characters that may surround a number. -/
def isMargin (c : Char) : Bool :=
  Text.isBlank c && !Text.isSeparator c

/-- Every underscore stands between two digits; `digitBefore` says whether the character before the
text is one. -/
def isGrouped (digitBefore : Bool) : List Char → Bool
  | [] => true
  | c :: s =>
    if c = '_' then digitBefore && s.head?.any Char.isDigit && isGrouped false s
    else isGrouped c.isDigit s

/-- The sign in front of a number, set for a minus, and the text after it. -/
def splitSign : List Char → Bool × List Char
  | [] => (false, [])
  | c :: s => if c = '-' then (true, s) else if c = '+' then (false, s) else (false, c :: s)

/-- The names of infinity. -/
def infinityNames : List (List Char) :=
  ["inf".toList, "infinity".toList]

/-- The name of the numbers that are none. -/
def nanName : List Char :=
  "nan".toList

/-- A number without sign, margin and grouping: a name or a literal. -/
def ofUnsigned? (negative : Bool) (s : List Char) : Option Binary64 :=
  if infinityNames.contains (s.map Char.toLower) then some (infinity negative)
  else if s.map Char.toLower = nanName then some (nan negative)
  else (Literal.ofChars? s).map fun l => l.value.toBinary64 negative

/-- A number without its margin. -/
def ofTrimmed? (s : List Char) : Option Binary64 :=
  if isGrouped false s then
    ofUnsigned? (splitSign (s.filter (· ≠ '_'))).1 (splitSign (s.filter (· ≠ '_'))).2
  else none

/-! ## Reading and writing -/

/-- The number that a text names. -/
def read (text : String) : Except NumberError Binary64 :=
  match ofTrimmed? ((Text.trim isMargin text.toList).map Text.asciiDigit) with
  | some v => .ok v
  | none => .error (.unreadable text)

/-- The text that stands for a number in a formula. -/
def render (v : Binary64) : Except NumberError String :=
  if v.isFinite then .ok (String.ofList (v.finiteText .canonical)) else .error (.notFinite v)

/-- The canonical text of the number that a text names. -/
def normalize (text : String) : Except NumberError String :=
  match read text with
  | .ok v => v.render
  | .error e => .error e

end Binary64

end Formulary
