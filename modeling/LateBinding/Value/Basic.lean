import LateBinding.Decimal.Notation
import LateBinding.Value.Type

/-!
# Values

Values are `null`, truth values, numbers, texts and references to objects.  A reference names its
object by a number and carries the object's type and loader, which never change.
-/

namespace LateBinding

/-- The identity of a loader. -/
structure LoaderId where
  /-- Loaders are numbered from one in the order of their opening. -/
  number : Nat
  deriving DecidableEq, Repr, Inhabited

/-- The text of a loader's identity. -/
def LoaderId.text (loader : LoaderId) : String :=
  "loader#" ++ toString loader.number

/-- A reference to an object. -/
structure Reference where
  /-- Objects are numbered in the order of their construction. -/
  object : Nat
  /-- The name of the object's type. -/
  typeName : String
  /-- The loader that produced the object's type. -/
  loader : LoaderId
  deriving DecidableEq, Repr, Inhabited

/-- The text of a reference: the type, and the loader it comes from. -/
def Reference.text (reference : Reference) : String :=
  reference.typeName ++ "@" ++ reference.loader.text

/-- A value of a running program. -/
inductive Value where
  /-- The absence of a text or an object. -/
  | null
  /-- A truth value. -/
  | boolean (truth : Bool)
  /-- An integer of 32 bits. -/
  | int (number : Int32)
  /-- An integer of 64 bits. -/
  | long (number : Int64)
  /-- A double-precision number. -/
  | double (number : Binary64)
  /-- A text. -/
  | string (text : String)
  /-- An object. -/
  | object (reference : Reference)
  deriving DecidableEq, Repr, Inhabited

namespace Value

/-- The name of a value's type in messages. -/
def typeName : Value → String
  | null => "null"
  | boolean _ => "boolean"
  | int _ => "int"
  | long _ => "long"
  | double _ => "double"
  | string _ => "string"
  | object reference => reference.typeName

/-- Whether a value is `null`. -/
def isNull : Value → Bool
  | null => true
  | _ => false

/-- The text that a value prints as; texts print as themselves. -/
def text : Value → String
  | null => "null"
  | boolean truth => if truth then "true" else "false"
  | int number => toString number.toInt
  | long number => toString number.toInt
  | double number => Decimal.valueFormat.text number
  | string text => text
  | object reference => reference.text

/-- The line that a returned value prints as; `null` prints nothing. -/
def resultLine? (value : Value) : Option String :=
  if value.isNull then none else some value.text

/--
The equality of running programs: numbers of different width differ, double-precision numbers
compare numerically, and two objects are equal when they are the same object.
-/
def equal : Value → Value → Bool
  | null, null => true
  | boolean left, boolean right => left = right
  | int left, int right => left = right
  | long left, long right => left = right
  | double left, double right => left.equal right
  | string left, string right => left = right
  | object left, object right => left.object = right.object
  | _, _ => false

/-- The value of a field before anything is stored in it. -/
def initial : ValueType → Value
  | .boolean => boolean false
  | .int => int 0
  | .long => long 0
  | .double => double Binary64.zero
  | .void => null
  | .string => null
  | .named _ => null

/--
A type accepts a value for a parameter when the value is of the type.  `null` belongs to the
nullable types; an object belongs to the type of its name, provided that the expecting member was
produced by the object's own loader.
-/
def isAccepted (type : ValueType) (loader : LoaderId) : Value → Bool
  | null => type.isNullable
  | boolean _ => type = .boolean
  | int _ => type = .int
  | long _ => type = .long
  | double _ => type = .double
  | string _ => type = .string
  | object reference => type = .named reference.typeName && reference.loader = loader

end Value
end LateBinding
