import LateBinding.Text.WhiteSpace

/-!
# Types of values

Fields, parameters and results are declared with a primitive type, the string type or the name of
another described type.  `void` is the result type of members that return nothing.
-/

namespace LateBinding

/-- The declared type of a field, a parameter or a result. -/
inductive ValueType where
  /-- The result of a member that returns nothing. -/
  | void
  /-- Truth values. -/
  | boolean
  /-- Integers of 32 bits. -/
  | int
  /-- Integers of 64 bits. -/
  | long
  /-- Double-precision numbers. -/
  | double
  /-- Texts. -/
  | string
  /-- The described type of a qualified name. -/
  | named (name : String)
  deriving DecidableEq, Repr, Inhabited

namespace ValueType

/-- The text of a type in signatures and messages. -/
def text : ValueType → String
  | void => "void"
  | boolean => "boolean"
  | int => "int"
  | long => "long"
  | double => "double"
  | string => "string"
  | named name => name

/-- The code of a type in a module. -/
def code : ValueType → UInt8
  | void => 0
  | boolean => 1
  | int => 2
  | long => 3
  | double => 4
  | string => 5
  | named _ => 6

/-- The type of a code; the code of named types needs a name, the others ignore it. -/
def ofCode? (code : UInt8) (name : Option String) : Option ValueType :=
  if code = 0 then some void
  else if code = 1 then some boolean
  else if code = 2 then some int
  else if code = 3 then some long
  else if code = 4 then some double
  else if code = 5 then some string
  else if code = 6 then name.map named
  else none

/--
The type that a declaration spells: a keyword, one of the other spellings of a keyword, or the
name of a described type.  White space around it is ignored and a blank declares nothing.
-/
def ofDeclaration? (declaration : String) : Option ValueType :=
  match Text.trimString declaration with
  | "" => none
  | "void" => some void
  | "boolean" => some boolean
  | "bool" => some boolean
  | "int" => some int
  | "long" => some long
  | "double" => some double
  | "string" => some string
  | "String" => some string
  | "java.lang.String" => some string
  | name => some (named name)

/-- A type is nullable when `null` is one of its values. -/
def isNullable : ValueType → Bool
  | string => true
  | named _ => true
  | _ => false

/-- The code of a type, read with the name that the type may carry, gives the type back. -/
theorem ofCode?_code
    (type : ValueType)
    (name : String)
    (carried : ∀ other, type = named other → other = name) :
    ofCode? type.code (some name) = some type := by
  cases type <;> simp_all [ofCode?, code]

end ValueType

/-- A member's name with the types of its parameters. -/
def signatureText (name : String) (parameters : List ValueType) : String :=
  name ++ "(" ++ String.intercalate "," (parameters.map ValueType.text) ++ ")"

end LateBinding
