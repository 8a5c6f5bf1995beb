import LateBinding.Calling.Dispatch
import LateBinding.Calling.Machine
import LateBinding.Loading.World

/-!
# Calls

The construction of objects, the calling of their methods and the reading of their fields.  All of
it is refused once the loader of the type is closed.
-/

namespace LateBinding
namespace World

/-- Constructs an object of a type. -/
def construct (world : World) (type : LoadedType) (arguments : List Value) :
    Except CallError Reference × World :=
  if !world.isOpen type.loader then (.error (.closed type.name), world)
  else
    match type.requireConstructorArguments arguments with
    | .error error => (.error error, world)
    | .ok () =>
        let constructor := type.image.constructor
        let frame : Frame := ⟨type.image.strings, arguments⟩
        let fields := type.image.fields.map fun field => Value.initial field.type
        let (result, machine) :=
          Machine.execute frame constructor.code ⟨[], fields, world.output⟩
        let printed := { world with output := machine.output }
        match result with
        | .error reason =>
            (.error (.execution (type.memberLabel constructor) reason), printed)
        | .ok _ =>
            (.ok ⟨world.objects.length, type.name, type.loader⟩,
              { printed with objects := world.objects ++ [⟨type, machine.fields⟩] })

/-- Runs a method of an object. -/
def runMethod
    (world : World)
    (reference : Reference)
    (object : Object)
    (method : Member)
    (arguments : List Value) :
    Except CallError Value × World :=
  let frame : Frame := ⟨object.type.image.strings, arguments⟩
  let (result, machine) :=
    Machine.execute frame method.code ⟨[], object.fields, world.output⟩
  let changed : Object := ⟨object.type, machine.fields⟩
  let after :=
    { world with
      objects := world.objects.set reference.object changed
      output := machine.output }
  (result.mapError fun reason => .execution (object.type.memberLabel method) reason, after)

/-- Calls a method of an object by name. -/
def invoke
    (world : World)
    (reference : Reference)
    (name : String)
    (arguments : List Value) :
    Except CallError Value × World :=
  match world.object? reference with
  | none => (.error (.closed reference.typeName), world)
  | some object =>
      if !world.isOpen object.type.loader then (.error (.closed object.type.name), world)
      else
        match object.type.dispatch name arguments with
        | .error error => (.error error, world)
        | .ok method => world.runMethod reference object method arguments

/-- The value of a field of an object; every field can be read, whatever its access level. -/
def fieldValue (world : World) (reference : Reference) (name : String) : Except CallError Value :=
  match world.object? reference with
  | none => .error (.closed reference.typeName)
  | some object =>
      if !world.isOpen object.type.loader then .error (.closed object.type.name)
      else
        match (object.type.fieldIndex? name).bind fun index => object.fields[index]? with
        | none => .error (.fieldNotFound object.type.name name)
        | some value => .ok value

end World
end LateBinding
