/-!
# Errors of building a type

What can be wrong with a described type: a member that does not fit, a body that is not understood
and a name that is none.
-/

namespace LateBinding

/-- How far the description of a type has come; members are added in this order. -/
inductive Stage where
  /-- Fields can be added. -/
  | fields
  /-- The constructor is set. -/
  | constructor
  /-- A method has been added. -/
  | methods
  deriving DecidableEq, Repr, Inhabited

/-- The rank of a stage in the order of description. -/
def Stage.rank : Stage → Nat
  | fields => 0
  | constructor => 1
  | methods => 2

/-- The words for a stage. -/
def Stage.text : Stage → String
  | fields => "fields"
  | constructor => "the constructor"
  | methods => "methods"

/-- Why a type cannot be built. -/
inductive BuildError where
  /-- The type has a field of this name. -/
  | duplicateField (typeName field : String)
  /-- The type has a method of this name and these parameters. -/
  | duplicateMethod (typeName signature : String)
  /-- The type has a constructor. -/
  | constructorAlreadySet (typeName : String)
  /-- A member's body or types do not fit the type. -/
  | signatureMismatch (member reason : String)
  /-- A member's body has a piece that is not understood. -/
  | unsupportedBody (member snippet : String)
  /-- A member cannot be added after the given stage. -/
  | outOfOrder (typeName member stage : String)
  /-- The type has no method of this name and these parameters. -/
  | unknownMethod (typeName signature : String)
  /-- A name is not an identifier or not a qualified name. -/
  | invalidName (name reason : String)
  deriving DecidableEq, Repr, Inhabited

namespace BuildError

/-- The message of an error. -/
def message : BuildError → String
  | duplicateField typeName field => s!"Duplicate field '{field}' in type {typeName}"
  | duplicateMethod typeName signature => s!"Duplicate method {signature} in type {typeName}"
  | constructorAlreadySet typeName => s!"Constructor already set on type {typeName}"
  | signatureMismatch member reason => s!"Signature mismatch in {member}: {reason}"
  | unsupportedBody member snippet => s!"Unsupported body construct in {member}: `{snippet}`"
  | outOfOrder typeName member stage => s!"Cannot add {member} to type {typeName} after {stage}"
  | unknownMethod typeName signature => s!"No method {signature} in type {typeName}"
  | invalidName name reason => s!"Invalid type name '{name}': {reason}"

/-- The kind of an error. -/
def kind : BuildError → String
  | duplicateField .. => "DuplicateField"
  | duplicateMethod .. => "DuplicateMethod"
  | constructorAlreadySet .. => "AlreadySet"
  | signatureMismatch .. => "SignatureMismatch"
  | unsupportedBody .. => "UnsupportedBodyConstruct"
  | outOfOrder .. => "OutOfOrder"
  | unknownMethod .. => "UnknownMethod"
  | invalidName .. => "InvalidName"

/-- The phase in which an error arises: bodies are read when code is generated. -/
def phase : BuildError → String
  | unsupportedBody .. => "codegen"
  | _ => "descriptor"

/-- The member that an error is about. -/
def member? : BuildError → Option String
  | signatureMismatch member _ => some member
  | unsupportedBody member _ => some member
  | duplicateMethod typeName signature => some s!"{typeName}.{signature}"
  | unknownMethod typeName signature => some s!"{typeName}.{signature}"
  | _ => none

end BuildError
end LateBinding
