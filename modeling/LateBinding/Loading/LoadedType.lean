import LateBinding.Loading.MethodTable
import LateBinding.Value.Basic

/-!
# Loaded types

A type that a loader has produced.  Two types are the same only if one loading produced them, even
if they have the same name and content.
-/

namespace LateBinding

/-- A type that a loader has produced. -/
structure LoadedType where
  /-- The identity; every loading that produces a type gives it a new one. -/
  identity : Nat
  /-- The loader that produced the type. -/
  loader : LoaderId
  /-- The path of the module. -/
  path : String
  /-- The content of the module. -/
  image : ModuleImage
  /-- The methods by name and parameter types. -/
  table : MethodTable
  deriving DecidableEq, Repr, Inhabited

namespace LoadedType

/-- The qualified name. -/
def name (type : LoadedType) : String :=
  type.image.name

/-- Whether two types are the same. -/
def isSame (type other : LoadedType) : Bool :=
  type.identity = other.identity

/-- The index of the first field of a name. -/
def fieldIndex? (type : LoadedType) (name : String) : Option Nat :=
  LateBinding.fieldIndex? type.image.fields name

/-- The method of a name and parameter types. -/
def findMethod?
    (type : LoadedType)
    (name : String)
    (parameters : List ValueType) :
    Option Member :=
  (type.table.find? (name, parameters)).bind fun position => type.image.methods[position]?

/-- The methods of a name with a number of parameters, in the order of their declaration. -/
def methodsOfArity (type : LoadedType) (name : String) (arity : Nat) : List Member :=
  type.image.methods.filter fun method => method.name = name && method.parameters.length = arity

/-- The text of a member in messages. -/
def memberLabel (type : LoadedType) (member : Member) : String :=
  s!"{type.name}.{member.signature}"

end LoadedType
end LateBinding
