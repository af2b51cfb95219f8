import Formulary.Number.Binary64

/-!
# Values from outside

Two things are given as values of any type: the text of a formula, where everything but a text is
turned down by the name of its type, and the value of an option, which is kept as it is given and only
asked whether it is *on*.
-/

set_option autoImplicit false

namespace Formulary

/-- A value of a type that is only known when it is looked at. -/
inductive Value
  | null
  | flag (b : Bool)
  | int (n : Int)
  | real (x : Binary64)
  | text (s : String)
  | list (items : List Value)
  /-- Values with names. -/
  | record (fields : List (String × Value))
deriving Repr

namespace Value

/-- The name of the value's type. -/
def typeName : Value → String
  | .null => "NoneType"
  | .flag _ => "bool"
  | .int _ => "int"
  | .real _ => "float"
  | .text _ => "str"
  | .list _ => "list"
  | .record _ => "dict"

/-- The value switches on what it is given to: it is neither missing nor false, nor zero, nor
empty. -/
def isOn : Value → Bool
  | .null => false
  | .flag b => b
  | .int n => n != 0
  | .real x => x.magnitude != 0
  | .text s => s != ""
  | .list items => !items.isEmpty
  | .record fields => !fields.isEmpty

end Value

end Formulary
