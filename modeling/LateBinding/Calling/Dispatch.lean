import LateBinding.Calling.Error
import LateBinding.Loading.LoadedType

/-!
# Dispatch

The choice of the method that is called.  Among the methods of the name with as many parameters as
there are arguments, exactly one has to accept the arguments.
-/

namespace LateBinding

/-- Whether parameters accept arguments, as many as both have. -/
def acceptsAll (loader : LoaderId) (parameters : List ValueType) (arguments : List Value) : Bool :=
  (parameters.zip arguments).all fun (type, value) => value.isAccepted type loader

/-- The type of a refused value in messages; an object of another loader tells its loader. -/
def refusedType (loader : LoaderId) : Value → String
  | .object reference =>
      if reference.loader = loader then reference.typeName
      else s!"{reference.typeName} from {reference.loader.text}"
  | value => value.typeName

/-- The first argument, counted from an index on, that its parameter refuses. -/
def firstRefusal?
    (loader : LoaderId)
    (label : String)
    (index : Nat) :
    List ValueType → List Value → Option CallError
  | type :: parameters, value :: arguments =>
      if value.isAccepted type loader then
        firstRefusal? loader label (index + 1) parameters arguments
      else some (.argumentType label index type.text (refusedType loader value))
  | _, _ => none

namespace LoadedType

/-- The methods of a name that accept arguments, in the order of their declaration. -/
def acceptingMethods (type : LoadedType) (name : String) (arguments : List Value) : List Member :=
  (type.methodsOfArity name arguments.length).filter fun method =>
    acceptsAll type.loader method.parameters arguments

/-- The method that a call with arguments means. -/
def dispatch (type : LoadedType) (name : String) (arguments : List Value) :
    Except CallError Member :=
  let arity := arguments.length
  match type.methodsOfArity name arity with
  | [] => .error (.methodNotFound type.name name arity)
  | first :: _ =>
      match type.acceptingMethods name arguments with
      | [] =>
          let label := type.memberLabel first
          .error
            ((firstRefusal? type.loader label 0 first.parameters arguments).getD
              (.methodNotFound type.name name arity))
      | [method] => .ok method
      | methods => .error (.ambiguous type.name name arity (methods.map Member.signature))

/-- Asks that the constructor takes arguments. -/
def requireConstructorArguments (type : LoadedType) (arguments : List Value) :
    Except CallError Unit :=
  let constructor := type.image.constructor
  let label := type.memberLabel constructor
  if arguments.length ≠ constructor.parameters.length then
    .error (.argumentCount label constructor.parameters.length arguments.length)
  else
    match firstRefusal? type.loader label 0 constructor.parameters arguments with
    | some error => .error error
    | none => .ok ()

end LoadedType
end LateBinding
