import LateBinding.Value.Type
import LateBinding.Value.Visibility

/-!
# Fields

The declared fields of a type, and their look-up by name.
-/

namespace LateBinding

/-- A declared field. -/
structure Field where
  /-- The name. -/
  name : String
  /-- The type. -/
  type : ValueType
  /-- The access level. -/
  visibility : Visibility
  deriving DecidableEq, Repr, Inhabited

/-- The index of the first field of a name. -/
def fieldIndex? (fields : List Field) (name : String) : Option Nat :=
  fields.findIdx? fun field => field.name = name

/-- The first field of a name with its index. -/
def findField? (fields : List Field) (name : String) : Option (Nat × Field) := do
  let index ← fieldIndex? fields name
  let field ← fields[index]?
  return (index, field)

/-- The type of a parameter; parameters are numbered from one. -/
def parameterType? (parameters : List ValueType) (number : Nat) : Option ValueType :=
  if number = 0 then none else parameters[number - 1]?

end LateBinding
