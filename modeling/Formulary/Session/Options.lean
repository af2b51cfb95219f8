import Formulary.Bindings
import Formulary.Value

/-!
# Options

There is one option, and it decides whether the loss of precision is warned about. It is kept in an object,
and options are set and read by name, as attributes of this object. Settings are applied one after the
other, up to the first that fails, and those before it stay.

A name counts as that of an option when the object has an attribute of the name at all. Besides the option
itself these are the attributes that it inherits: the functions by which it is used, descriptions of its
fields, and those that every object has. To set one of them hides it behind a value, with consequences for
what the object does later on: a function that is hidden cannot be called any more (`update`, `snapshot`).
Three attributes cannot be hidden, and setting them either fails or, in the case of the attributes
themselves, replaces all that has been set.
-/

set_option autoImplicit false

namespace Formulary

/-- Values to be given to options, by name. -/
abbrev Settings :=
  Bindings Value

/-- The object that keeps the options. -/
structure Options where
  /-- What has been set on the object itself, by name. -/
  attributes : Settings
deriving Repr

namespace Options

/-- What an object has under a name. -/
inductive Attribute
  | value (v : Value)
  /-- One that the object only inherits. -/
  | inherited (name : String)
deriving Repr

/-- Why options cannot be set, read or kept. -/
inductive Error
  | unknown (name : String)
  /-- What is called is no function, but a value that hides it. -/
  | notCallable (v : Value)
  /-- A setting has the name under which the object is handed to its own function. -/
  | givenTwice
  /-- The attributes can only be replaced by a record. -/
  | notRecord (v : Value)
  | notClass (v : Value)
  | readOnly
  /-- A description of the fields is expected to have an attribute that the value lacks. -/
  | noAttribute (v : Value) (missing : String)
deriving Repr

/-- The wording of the error. -/
def Error.message : Error → String
  | .unknown name => "Unknown option '" ++ name ++ "'"
  | .notCallable v => "'" ++ v.typeName ++ "' object is not callable"
  | .givenTwice => "_Options.update() got multiple values for argument 'self'"
  | .notRecord v => "__dict__ must be set to a dictionary, not a '" ++ v.typeName ++ "'"
  | .notClass v => "__class__ must be set to a class, not '" ++ v.typeName ++ "' object"
  | .readOnly => "attribute '__weakref__' of '_Options' objects is not writable"
  | .noAttribute v missing =>
    "'" ++ v.typeName ++ "' object has no attribute '" ++ missing ++ "'"

/-! ## Names -/

/-- The name under which the option is set and read. -/
def warnPrecisionLossName : String :=
  "warn_precision_loss"

/-- The names of what every object of options inherits, besides the option itself. -/
def inheritedNames : List String :=
  ["update", "to_dict", "__annotations__", "__class__", "__dataclass_fields__",
    "__dataclass_params__", "__delattr__", "__dict__", "__dir__", "__doc__", "__eq__", "__format__",
    "__ge__", "__getattribute__", "__getstate__", "__gt__", "__hash__", "__init__",
    "__init_subclass__", "__le__", "__lt__", "__match_args__", "__module__", "__ne__", "__new__",
    "__reduce__", "__reduce_ex__", "__repr__", "__setattr__", "__sizeof__", "__str__",
    "__subclasshook__", "__weakref__"]

/-- What an object has under a name without anything being set: warnings are given. -/
def inherited? (name : String) : Option Attribute :=
  if name = warnPrecisionLossName then some (.value (.flag true))
  else if inheritedNames.contains name then some (.inherited name)
  else none

/-! ## The object -/

/-- At first, warnings are given. -/
def initial : Options :=
  ⟨[(warnPrecisionLossName, .flag true)]⟩

/-- The value of the option. -/
def warnPrecisionLoss (o : Options) : Value :=
  (o.attributes.get? warnPrecisionLossName).getD (.flag true)

/-- Warnings about the loss of precision are wanted. -/
def warns (o : Options) : Bool :=
  o.warnPrecisionLoss.isOn

/-- What the object has under a name. What has been set hides what is inherited, but for the three
attributes that cannot be hidden. -/
def get? (o : Options) (name : String) : Option Attribute :=
  if name = "__dict__" then some (.value (.record o.attributes))
  else if name = "__class__" ∨ name = "__weakref__" then some (.inherited name)
  else
    match o.attributes.get? name with
    | some v => some (.value v)
    | none => inherited? name

/-- The object with all its attributes replaced. -/
def ofValue : Value → Except Error Options
  | .record attributes => .ok ⟨attributes⟩
  | v => .error (.notRecord v)

/-- The object with one of its attributes set. -/
def set (o : Options) (name : String) (v : Value) : Except Error Options :=
  if (o.get? name).isNone then .error (.unknown name)
  else if name = "__dict__" then ofValue v
  else if name = "__class__" then .error (.notClass v)
  else if name = "__weakref__" then .error .readOnly
  else .ok ⟨o.attributes.put name v⟩

/-- Settings one after the other. -/
def setAll (o : Options) : Settings → Options × Option Error
  | [] => (o, none)
  | (name, v) :: rest =>
    match o.set name v with
    | .ok o' => o'.setAll rest
    | .error e => (o, some e)

/-- The options after some settings, and the reason why not all could be made, if there is one. They are
made by a function of the object, which is handed the object under the name `self`. -/
def update (o : Options) (settings : Settings) : Options × Option Error :=
  match o.attributes.get? "update" with
  | some v => (o, some (.notCallable v))
  | none =>
    if settings.any fun p => p.1 == "self" then (o, some .givenTwice) else o.setAll settings

/-! ## Giving the option back -/

/-- The value of the option, to be given back later on. A function of the object finds it by the description
of the object's fields; nothing is found if that describes none. -/
def snapshot (o : Options) : Except Error (Option Value) :=
  match o.attributes.get? "to_dict", o.attributes.get? "__dataclass_fields__" with
  | some v, _ => .error (.notCallable v)
  | none, none => .ok (some o.warnPrecisionLoss)
  | none, some (.record []) => .ok none
  | none, some (.record ((_, v) :: _)) => .error (.noAttribute v "_field_type")
  | none, some v => .error (.noAttribute v "values")

/-- Give back what was found. Whatever else has been set stays. -/
def restore (o : Options) : Option Value → Options
  | some v => ⟨o.attributes.put warnPrecisionLossName v⟩
  | none => o

/-- Set options for a while: what is to be given back, or why that failed. If it did, the option has its
old value again. -/
def enter (o : Options) (settings : Settings) : Options × Except Error (Option Value) :=
  match o.snapshot with
  | .error e => (o, .error e)
  | .ok old =>
    match o.update settings with
    | (o', none) => (o', .ok old)
    | (o', some e) => (o'.restore old, .error e)

end Options

end Formulary
