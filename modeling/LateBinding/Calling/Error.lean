/-!
# Errors of calling

The ways in which an object cannot be constructed, a method cannot be called and a field cannot be
read.
-/

namespace LateBinding

/-- Why a call fails. -/
inductive CallError where
  /-- The constructor takes another number of arguments. -/
  | argumentCount (member : String) (expected found : Nat)
  /-- An argument is not of its parameter's type. -/
  | argumentType (member : String) (index : Nat) (expected found : String)
  /-- No method has this name and this number of parameters. -/
  | methodNotFound (typeName method : String) (arity : Nat)
  /-- Several methods accept the arguments. -/
  | ambiguous (typeName method : String) (arity : Nat) (candidates : List String)
  /-- No field has this name. -/
  | fieldNotFound (typeName field : String)
  /-- The loader of the type is closed. -/
  | closed (typeName : String)
  /-- An instruction of the member cannot be carried out. -/
  | execution (member reason : String)
  deriving DecidableEq, Repr, Inhabited

namespace CallError

/-- The message of an error. -/
def message : CallError → String
  | argumentCount member expected found => s!"{member} expects {expected} argument(s), got {found}"
  | argumentType member index expected found =>
      s!"{member} argument #{index}: expected {expected}, got {found}"
  | methodNotFound typeName method arity => s!"No method {method}/{arity} on type {typeName}"
  | ambiguous typeName method arity candidates =>
      s!"Call {method}/{arity} on type {typeName} is ambiguous between " ++
        String.intercalate " and " candidates
  | fieldNotFound typeName field => s!"No field '{field}' on type {typeName}"
  | closed typeName => s!"Type {typeName} was loaded by a closed loader"
  | execution member reason => s!"Execution of {member} failed: {reason}"

/-- The kind of an error. -/
def kind : CallError → String
  | argumentCount .. => "ArgumentArity"
  | argumentType .. => "ArgumentType"
  | methodNotFound .. => "MethodNotFound"
  | ambiguous .. => "AmbiguousCall"
  | fieldNotFound .. => "FieldNotFound"
  | closed .. => "UseAfterClose"
  | execution .. => "Execution"

/-- The member that an error is about. -/
def member? : CallError → Option String
  | argumentCount member _ _ => some member
  | argumentType member _ _ _ => some member
  | execution member _ => some member
  | methodNotFound typeName method _ => some s!"{typeName}.{method}"
  | ambiguous typeName method _ _ => some s!"{typeName}.{method}"
  | _ => none

end CallError
end LateBinding
