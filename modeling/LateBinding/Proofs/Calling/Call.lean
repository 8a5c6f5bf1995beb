import LateBinding.Calling.Call
import LateBinding.Proofs.Calling.Dispatch
import LateBinding.Proofs.Calling.Machine

/-!
# What calls can come to

A call is either refused, which leaves the world as it was, or it runs the code of one member on the
arguments.  Code that is sound and bound fails only for want of a value on the stack.
-/

namespace LateBinding

/-- Sound code that calls nothing but the printing function. -/
structure LoadedType.IsVerified (type : LoadedType) : Prop where
  /-- The code of all members is sound. -/
  sound : type.image.IsSound
  /-- The external calls of all members are bound. -/
  bound : ∀ member ∈ type.image.members, member.code.IsBound type.image.strings

/-- The frame of a member's run. -/
def LoadedType.frame (type : LoadedType) (arguments : List Value) : Frame :=
  ⟨type.image.strings, arguments⟩

/-- The values of the fields of an object that has just been made. -/
def LoadedType.initialFields (type : LoadedType) : List Value :=
  type.image.fields.map fun field => Value.initial field.type

/-- A member of a verified type keeps the number of fields and fails only on a stack too small. -/
theorem LoadedType.IsVerified.execute
    {type : LoadedType}
    (verified : type.IsVerified)
    {member : Member}
    (present : member ∈ type.image.members)
    {arguments : List Value}
    (asMany : member.parameters.length = arguments.length)
    {machine : Machine}
    (fields : machine.fields.length = type.image.fields.length) :
    (Machine.execute (type.frame arguments) member.code machine).2.fields.length =
        type.image.fields.length ∧
      ∀ reason, (Machine.execute (type.frame arguments) member.code machine).1 = .error reason →
        reason = "stack underflow" := by
  have sound := verified.sound member present
  rw [asMany, ← fields] at sound
  rw [← fields]
  exact Machine.execute_isSafe sound (verified.bound member present)

namespace World

variable {world : World}

/-- The run of the constructor of a type. -/
def constructorRun (world : World) (type : LoadedType) (arguments : List Value) :
    Except String Value × Machine :=
  Machine.execute (type.frame arguments) type.image.constructor.code
    ⟨[], type.initialFields, world.output⟩

/-- The run of a method of an object. -/
def methodRun (world : World) (object : Object) (method : Member) (arguments : List Value) :
    Except String Value × Machine :=
  Machine.execute (object.type.frame arguments) method.code ⟨[], object.fields, world.output⟩

/-- The world after the run of a constructor that has made an object. -/
def withObject (world : World) (type : LoadedType) (machine : Machine) : World :=
  { world with
    objects := world.objects ++ [⟨type, machine.fields⟩]
    output := machine.output }

/-- The world after the run of a method of an object. -/
def withRun (world : World) (reference : Reference) (object : Object) (machine : Machine) : World :=
  { world with
    objects := world.objects.set reference.object ⟨object.type, machine.fields⟩
    output := machine.output }

/-- An object after a construction was there before or is the new one. -/
theorem object_of_withObject
    {type : LoadedType}
    {machine : Machine}
    {number : Nat}
    {object : Object}
    (there : (world.withObject type machine).objects[number]? = some object) :
    world.objects[number]? = some object ∨
      number = world.objects.length ∧ object = ⟨type, machine.fields⟩ := by
  rw [withObject, List.getElem?_append] at there
  split at there
  · exact .inl there
  · next behind =>
    obtain ⟨inside, same⟩ := List.getElem?_eq_some_iff.mp there
    rw [List.length_singleton] at inside
    refine .inr ⟨by omega, ?_⟩
    rw [← same, List.getElem_singleton]

/-- A run of a method changes nothing but the fields of its object. -/
theorem getElem?_withRun
    {reference : Reference}
    {object : Object}
    (found : world.object? reference = some object)
    (machine : Machine)
    (number : Nat) :
    (world.withRun reference object machine).objects[number]? =
      if reference.object = number then some ⟨object.type, machine.fields⟩
      else world.objects[number]? := by
  have inside := (List.getElem?_eq_some_iff.mp found).1
  rw [withRun, List.getElem?_set, if_pos inside]

/-! ## Construction -/

section Construction

variable {type : LoadedType} {arguments : List Value}

/-- A construction is refused, or runs the constructor to its end or to a fault. -/
theorem construct_cases (world : World) (type : LoadedType) (arguments : List Value) :
    (∃ error : CallError, error.IsRefusal ∧
      world.construct type arguments = (.error error, world)) ∨
    (world.isOpen type.loader = true ∧ type.requireConstructorArguments arguments = .ok ()) := by
  by_cases opened : world.isOpen type.loader = true
  · cases required : type.requireConstructorArguments arguments with
    | error error =>
        refine .inl ⟨error, LoadedType.isRefusal_of_requireConstructorArguments required, ?_⟩
        simp only [construct, opened, required]
        rfl
    | ok _ => exact .inr ⟨opened, rfl⟩
  · refine .inl ⟨.closed type.name, trivial, ?_⟩
    simp only [construct, opened]
    rfl

theorem construct_of_ok
    (opened : world.isOpen type.loader = true)
    (required : type.requireConstructorArguments arguments = .ok ())
    {value : Value}
    {machine : Machine}
    (run : world.constructorRun type arguments = (.ok value, machine)) :
    world.construct type arguments =
      (.ok ⟨world.objects.length, type.name, type.loader⟩, world.withObject type machine) := by
  unfold constructorRun LoadedType.frame LoadedType.initialFields at run
  simp only [construct, opened, required, run]
  rfl

theorem construct_of_error
    (opened : world.isOpen type.loader = true)
    (required : type.requireConstructorArguments arguments = .ok ())
    {reason : String}
    {machine : Machine}
    (run : world.constructorRun type arguments = (.error reason, machine)) :
    world.construct type arguments =
      (.error (.execution (type.memberLabel type.image.constructor) reason),
        { world with output := machine.output }) := by
  unfold constructorRun LoadedType.frame LoadedType.initialFields at run
  simp only [construct, opened, required, run]
  rfl

/-- Constructing an object leaves the loaders alone. -/
theorem loaders_construct (world : World) (type : LoadedType) (arguments : List Value) :
    (world.construct type arguments).2.loaders = world.loaders := by
  rcases world.construct_cases type arguments with ⟨error, _, refused⟩ | ⟨opened, required⟩
  · rw [refused]
  · rcases run : world.constructorRun type arguments with ⟨result, machine⟩
    cases result with
    | error reason => rw [construct_of_error opened required run]
    | ok value =>
        rw [construct_of_ok opened required run]
        rfl

end Construction

/-! ## Calls of methods -/

section Calls

variable {reference : Reference} {name : String} {arguments : List Value}

/-- A call is refused, or runs a method of the object. -/
theorem invoke_cases
    (world : World)
    (reference : Reference)
    (name : String)
    (arguments : List Value) :
    (∃ error : CallError, error.IsRefusal ∧
      world.invoke reference name arguments = (.error error, world)) ∨
    ∃ object method, world.object? reference = some object ∧
      world.isOpen object.type.loader = true ∧
      object.type.dispatch name arguments = .ok method := by
  cases found : world.object? reference with
  | none =>
      refine .inl ⟨.closed reference.typeName, trivial, ?_⟩
      simp only [invoke, found]
  | some object =>
      by_cases opened : world.isOpen object.type.loader = true
      · cases meant : object.type.dispatch name arguments with
        | error error =>
            refine .inl ⟨error, LoadedType.isRefusal_of_dispatch meant, ?_⟩
            simp only [invoke, found, opened, meant]
            rfl
        | ok method => exact .inr ⟨object, method, rfl, opened, meant⟩
      · refine .inl ⟨.closed object.type.name, trivial, ?_⟩
        simp only [invoke, found, opened]
        rfl

theorem invoke_of_dispatch
    {object : Object}
    {method : Member}
    (found : world.object? reference = some object)
    (opened : world.isOpen object.type.loader = true)
    (meant : object.type.dispatch name arguments = .ok method) :
    world.invoke reference name arguments =
      ((world.methodRun object method arguments).1.mapError fun reason =>
          .execution (object.type.memberLabel method) reason,
        world.withRun reference object (world.methodRun object method arguments).2) := by
  simp only [invoke, found, opened, meant]
  rfl

theorem invoke_of_dispatch_error
    {object : Object}
    (found : world.object? reference = some object)
    (opened : world.isOpen object.type.loader = true)
    {error : CallError}
    (failed : object.type.dispatch name arguments = .error error) :
    world.invoke reference name arguments = (.error error, world) := by
  simp only [invoke, found, opened, failed]
  rfl

/-- Calling a method leaves the loaders alone. -/
theorem loaders_invoke
    (world : World)
    (reference : Reference)
    (name : String)
    (arguments : List Value) :
    (world.invoke reference name arguments).2.loaders = world.loaders := by
  rcases world.invoke_cases reference name arguments with
    ⟨error, _, refused⟩ | ⟨object, method, found, opened, meant⟩
  · rw [refused]
  · rw [invoke_of_dispatch found opened meant]
    rfl

end Calls

end World
end LateBinding
