import LateBinding.Proofs.Calling.Session
import LateBinding.Proofs.Lowering.Typing
import LateBinding.Proofs.Pipeline

/-!
# Generated types are sound

In a program that loads nothing but modules of described types, every field of every object has a value
of its declared type, and every call returns a value of the declared result.  Only arguments are ever
checked while the program runs; all else follows from what was checked when the types were lowered.
-/

namespace LateBinding

/-- A type that steps have described and that has been completed. -/
def FrozenType.IsDescribed (type : FrozenType) : Prop :=
  ∃ typeName steps, (TypeDescription.described typeName steps).freeze = .ok type

/-- The module of one of some types, which is short enough for its offsets. -/
def Bytes.IsModuleOf (types : Set FrozenType) (content : Bytes) : Prop :=
  content.length < 2 ^ 32 ∧
    ∃ type ∈ types, ∃ module, type.generate = .ok module ∧ module.bytes = content

/-- Whatever file is read while a type is loaded, it is the module of one of some types. -/
def Action.ReadsModulesOf (types : Set FrozenType) : Action → Prop
  | load read _ _ => ∀ path content, read path = .ok content → content.IsModuleOf types
  | _ => True

/-- A loaded type whose image is decoded from the module of a type. -/
def LoadedType.IsGeneratedBy (loaded : LoadedType) (type : FrozenType) : Prop :=
  ∃ content : Bytes, content.IsModuleOf {type} ∧ ModuleImage.decode content = .ok loaded.image

/-- A loaded type whose image is decoded from the module of one of some types. -/
def LoadedType.IsOneOf (types : Set FrozenType) (loaded : LoadedType) : Prop :=
  ∃ type ∈ types, loaded.IsGeneratedBy type

/-- An object of one of some types, whose fields have values of their types. -/
structure Object.IsTyped (types : Set FrozenType) (object : Object) : Prop where
  type : object.type.IsOneOf types
  fields : FieldsAccept object.type.loader object.type.image.fields object.fields

theorem FrozenType.IsDescribed.isWellFormed
    {type : FrozenType}
    (described : type.IsDescribed) :
    type.description.IsWellFormed := by
  obtain ⟨typeName, steps, frozen⟩ := described
  rw [(TypeDescription.isQualifiedName_of_freeze frozen).1]
  exact TypeDescription.isWellFormed_described typeName steps

/-- What is decoded from the module of a described type implements the type. -/
theorem LoadedType.IsGeneratedBy.implements
    {loaded : LoadedType}
    {type : FrozenType}
    (generated : loaded.IsGeneratedBy type)
    (described : type.IsDescribed) :
    loaded.image.Implements type.description := by
  obtain ⟨content, ⟨short, _, rfl, module, packed, rfl⟩, decoded⟩ := generated
  obtain ⟨lowered, lowers, rfl⟩ := Outcome.map_eq_ok_iff.mp packed
  obtain ⟨restored, implements⟩ :=
    FrozenType.decode_of_lower lowers described.isWellFormed short
  rw [Except.ok.inj (decoded.symm.trans restored)]
  exact implements

variable {types : Set FrozenType}

/-- A program that loads a module of one of some types and constructs an object reads nothing else. -/
theorem Action.readsModulesOf_of_isModuleOf
    {content : Bytes}
    (generated : content.IsModuleOf types)
    (directory extension name : String)
    (loader : LoaderId)
    (position : Nat)
    (arguments : List Value) :
    ∀ action ∈ [openLoader directory extension, load (fun _ => .ok content) loader name,
      construct position arguments], action.ReadsModulesOf types := by
  have reads : (load (fun _ => .ok content) loader name).ReadsModulesOf types := by
    intro path found same
    rw [← Except.ok.inj same]
    exact generated
  simp only [List.forall_mem_cons]
  exact ⟨trivial, reads, trivial, List.forall_mem_nil _⟩

theorem Action.ReadsModulesOf.yields
    {action : Action}
    (reads : action.ReadsModulesOf types) :
    action.Yields (LoadedType.IsOneOf types) := by
  cases action with
  | load read loader name =>
      intro path name content image table readable accepted identity loader
      obtain ⟨short, type, among, packed⟩ := reads path content readable
      exact ⟨type, among, content, ⟨short, type, rfl, packed⟩,
        (World.readModule_eq_ok_iff.mp accepted).1⟩
  | _ => trivial

/-! ## Runs of members -/

namespace World

variable {description : TypeDescription} {arguments : List Value}

/-- The constructor of a described type gives its fields values of their types. -/
theorem constructorRun_isTyped
    (world : World)
    {type : LoadedType}
    (implements : type.image.Implements description)
    (wellFormed : description.IsWellFormed)
    (required : type.requireConstructorArguments arguments = .ok ()) :
    FieldsAccept type.loader type.image.fields (world.constructorRun type arguments).2.fields := by
  obtain ⟨asMany, accepts⟩ := LoadedType.requireConstructorArguments_eq_ok_iff.mp required
  rw [implements.constructor.parameters] at asMany accepts
  have initial : FieldsAccept type.loader description.fields type.initialFields := by
    rw [LoadedType.initialFields, implements.fields]
    exact fieldsAccept_initial wellFormed.valuedFields type.loader
  obtain ⟨_, machine, executed, _, typed⟩ :=
    implements.constructor.code.execute_isTyped (implements.constructorContext_fits wellFormed)
      ⟨[], type.initialFields, world.output⟩ asMany accepts initial
  have run : (world.constructorRun type arguments).2 = machine := congrArg Prod.snd executed
  rw [run, implements.fields]
  exact typed

/-- A method of a described type returns a value of its result and keeps the types of the fields. -/
theorem methodRun_isTyped
    (world : World)
    {object : Object}
    (implements : object.type.image.Implements description)
    (wellFormed : description.IsWellFormed)
    (typed : FieldsAccept object.type.loader object.type.image.fields object.fields)
    {name : String}
    {member : Member}
    (meant : object.type.dispatch name arguments = .ok member) :
    FieldsAccept object.type.loader object.type.image.fields
        (world.methodRun object member arguments).2.fields ∧
      ∃ method ∈ description.methods, method.key = member.key ∧ method.result = member.result ∧
        ∃ value, (world.methodRun object member arguments).1 = .ok value ∧
          method.result.Admits object.type.loader value := by
  obtain ⟨present, asMany⟩ := LoadedType.mem_methods_of_dispatch meant
  have accepts := LoadedType.accepts_of_dispatch meant
  obtain ⟨method, among, implemented⟩ := exists_mem_of_forall₂ implements.methods present
  obtain ⟨statements, _, code⟩ := implemented.code
  rw [implemented.parameters] at asMany accepts
  rw [implements.fields] at typed
  obtain ⟨value, machine, executed, admits, typedAfter⟩ :=
    code.execute_isTyped (implements.methodContext_fits wellFormed among)
      ⟨[], object.fields, world.output⟩ asMany.symm accepts typed
  have run : world.methodRun object member arguments = (.ok value, machine) := executed
  rw [run, implements.fields]
  refine ⟨typedAfter, method, among, ?_, implemented.result.symm, value, rfl, admits⟩
  rw [MethodDescription.key, Member.key, implemented.name, implemented.parameters]

end World

theorem keptByRuns_isTyped (described : ∀ type ∈ types, type.IsDescribed) :
    KeptByRuns (LoadedType.IsOneOf types) (Object.IsTyped types) where
  made world type arguments value machine isOne required run := by
    obtain ⟨origin, among, generated⟩ := isOne
    have implements := generated.implements (described origin among)
    have typed :=
      world.constructorRun_isTyped implements (described origin among).isWellFormed required
    rw [run] at typed
    exact ⟨⟨origin, among, generated⟩, typed⟩
  changed world object method name arguments typed meant := by
    obtain ⟨origin, among, generated⟩ := typed.type
    have implements := generated.implements (described origin among)
    have typedAfter :=
      world.methodRun_isTyped implements (described origin among).isWellFormed typed.fields meant
    exact ⟨typed.type, typedAfter.1⟩

namespace Session

/--
In every run of a program over files that are modules of described types, each field of each object has
a value of its declared type, and a call that succeeds returns a value of the declared result of the
method, or nothing if the method is void.  The types may be versions of one another: what is declared is
what the type says whose module the object's own image is decoded from.
-/
theorem run_isTypeSound
    (described : ∀ type ∈ types, type.IsDescribed)
    {actions : List Action}
    (reads : ∀ action ∈ actions, action.ReadsModulesOf types) :
    (∀ object ∈ (run actions).world.objects, ∃ type ∈ types,
      object.type.IsGeneratedBy type ∧
      object.type.name = type.description.name ∧
      object.type.image.fields = type.description.fields ∧
      FieldsAccept object.type.loader type.description.fields object.fields) ∧
    ∀ reference name arguments value after,
      (run actions).world.invoke reference name arguments = (.ok value, after) →
        ∃ object member, (run actions).world.object? reference = some object ∧
          object.type.dispatch name arguments = .ok member ∧
          ∃ type ∈ types, object.type.IsGeneratedBy type ∧
            object.type.name = type.description.name ∧
            ∃ method ∈ type.description.methods, method.key = member.key ∧
              method.result = member.result ∧
              method.result.Admits object.type.loader value := by
  have typed : (run actions).Satisfies (LoadedType.IsOneOf types) (Object.IsTyped types) :=
    run_satisfies (keptByRuns_isTyped described) fun action present => (reads action present).yields
  constructor
  · intro object present
    have typedObject := typed.world.objects object present
    obtain ⟨type, among, generated⟩ := typedObject.type
    have implements := generated.implements (described type among)
    refine ⟨type, among, generated, implements.name, implements.fields, ?_⟩
    rw [← implements.fields]
    exact typedObject.fields
  · intro reference name arguments value after invoked
    rcases (run actions).world.invoke_cases reference name arguments with
      ⟨error, _, refused⟩ | ⟨object, member, found, opened, meant⟩
    · rw [refused] at invoked
      nomatch invoked
    · have typedObject := typed.world.objects object (World.object_mem found)
      obtain ⟨type, among, generated⟩ := typedObject.type
      have implements := generated.implements (described type among)
      obtain ⟨_, method, declared, sameKey, sameResult, returned, ran, admits⟩ :=
        World.methodRun_isTyped (run actions).world implements
          (described type among).isWellFormed typedObject.fields meant
      rw [World.invoke_of_dispatch found opened meant, ran] at invoked
      obtain rfl := Except.ok.inj (Prod.mk.inj invoked).1
      exact ⟨object, member, found, meant, type, among, generated, implements.name, method, declared,
        sameKey, sameResult, admits⟩

/-- A program that loads the module of a described type and constructs an object. -/
def labelActions : List Action :=
  [.openLoader "d" ".kiln", .load (fun _ => .ok labelModule.bytes) ⟨1⟩ "A",
    .construct 0 [.string "x"]]

theorem run_labelActions_isTypeSound :
    (∃ object ∈ (run labelActions).world.objects,
      FieldsAccept object.type.loader labelDescription.fields object.fields) ∧
    ∃ value after, (run labelActions).world.invoke ⟨0, "A", ⟨1⟩⟩ "f" [] = (.ok value, after) ∧
      ∃ object method, (run labelActions).world.object? ⟨0, "A", ⟨1⟩⟩ = some object ∧
        method ∈ labelDescription.methods ∧ method.result.Admits object.type.loader value := by
  have described : ∀ type ∈ ({⟨labelDescription⟩} : Set FrozenType), type.IsDescribed := by
    rintro type rfl
    exact ⟨"A", labelSteps, by decide +kernel⟩
  have generated : labelModule.bytes.IsModuleOf {⟨labelDescription⟩} :=
    ⟨by decide +kernel, _, rfl, labelModule, by decide +kernel, rfl⟩
  have reads : ∀ action ∈ labelActions, action.ReadsModulesOf {⟨labelDescription⟩} :=
    Action.readsModulesOf_of_isModuleOf generated _ _ _ _ _ _
  have constructed : ((run labelActions).world.objects[0]?).isSome := by decide +kernel
  have called : ((run labelActions).world.invoke ⟨0, "A", ⟨1⟩⟩ "f" []).1 = .ok (.string "x") := by
    decide +kernel
  obtain ⟨objects, calls⟩ := run_isTypeSound described reads
  constructor
  · obtain ⟨object, first⟩ := Option.isSome_iff_exists.mp constructed
    have present := List.mem_of_getElem? first
    obtain ⟨_, rfl, _, _, _, accept⟩ := objects object present
    exact ⟨object, present, accept⟩
  · have invoked : (run labelActions).world.invoke ⟨0, "A", ⟨1⟩⟩ "f" [] =
        (.ok (.string "x"), ((run labelActions).world.invoke ⟨0, "A", ⟨1⟩⟩ "f" []).2) :=
      Prod.ext called rfl
    obtain ⟨object, _, found, _, _, rfl, _, _, method, declared, _, _, admits⟩ :=
      calls _ _ _ _ _ invoked
    exact ⟨_, _, invoked, object, method, found, declared, admits⟩

end Session
end LateBinding
