import LateBinding.Proofs.Calling.Call
import LateBinding.Proofs.Loading.FirstLoad
import LateBinding.Proofs.Lowering.Image
import LateBinding.Proofs.Module.RoundTrip
import LateBinding.Proofs.Storage.Atomicity

/-!
# Stored types run as described

A type that has been described, lowered, stored and loaded does what its statements say.  The parts are
put together here: the image that is read back implements the description, loading accepts it, and each
call of one of its objects has the effect of the described method.
-/

namespace LateBinding

/-- The results of calls of an object one after the other, and the world after them. -/
def World.invokeAll (world : World) (reference : Reference) :
    List Call → List (Except CallError Value) × World
  | [] => ([], world)
  | call :: rest =>
      let (result, after) := world.invoke reference call.method call.arguments
      let (results, final) := after.invokeAll reference rest
      (result :: results, final)

/-! ## The module of a described type -/

section Module

variable {type : FrozenType} {image : ModuleImage}

/-- What is read back from the bytes of a lowered type implements the description. -/
theorem FrozenType.decode_of_lower
    (lowered : type.lower = .ok image)
    (wellFormed : type.description.IsWellFormed)
    (short : image.encode.length < 2 ^ 32) :
    ModuleImage.decode image.encode = .ok image.closure ∧
      image.closure.Implements type.description := by
  have shortClosure : image.closure.encode.length < 2 ^ 32 := by
    rw [ModuleImage.encode_closure]
    exact short
  have small : image.closure.strings.size < 2 ^ 32 :=
    ModuleImage.isSmall_of_short shortClosure image.isClosed_closure
  have implements : image.closure.Implements type.description :=
    FrozenType.implements_of_lower lowered image.closure_extends (Nat.le_of_lt small)
  refine ⟨?_, implements⟩
  rw [← ModuleImage.encode_closure]
  exact ModuleImage.decode_encode_of_isClosed
    ⟨implements.isSound wellFormed, implements.narrow wellFormed, shortClosure⟩
    image.isClosed_closure

theorem TypeDescription.isQualifiedName_of_freeze
    {description : TypeDescription}
    (frozen : description.freeze = .ok type) :
    type.description = description ∧ isQualifiedName description.name = true := by
  unfold TypeDescription.freeze at frozen
  split at frozen
  · nomatch frozen
  · next faultless =>
    obtain rfl := Except.ok.inj frozen
    exact ⟨rfl, (qualifiedNameFault?_eq_none_iff _).mp faultless⟩

end Module

/-! ## Objects of a type that implements a description -/

section Calls

variable {description : TypeDescription} {type : LoadedType} {world : World}

/-- An object of an open type whose fields have the values of a store. -/
structure World.HasObject
    (world : World)
    (reference : Reference)
    (type : LoadedType)
    (store : FieldStore) : Prop where
  opened : world.isOpen type.loader = true
  there : ∃ values, world.object? reference = some ⟨type, values⟩ ∧
    store.Agrees type.image.fields values

theorem LoadedType.requireConstructorArguments_of_accepts
    (implements : type.image.Implements description)
    {arguments : List Value}
    (accepts : description.ConstructorAccepts type.loader arguments) :
    type.requireConstructorArguments arguments = .ok () := by
  rw [requireConstructorArguments_eq_ok_iff, implements.constructor.parameters]
  exact accepts

/-- Constructing has the effect of the described constructor. -/
theorem World.construct_of_accepts
    (implements : type.image.Implements description)
    (wellFormed : description.IsWellFormed)
    (opened : world.isOpen type.loader = true)
    {arguments : List Value}
    (accepts : description.ConstructorAccepts type.loader arguments) :
    ∃ effect reference after,
      effect? arguments (.initial description.fields) description.constructorBody = some effect ∧
      world.construct type arguments = (.ok reference, after) ∧
      after.output = world.output ++ effect.lines ∧
      after.HasObject reference type effect.store := by
  have required := LoadedType.requireConstructorArguments_of_accepts implements accepts
  have represents : Machine.Represents
      (description.memberContext constructorName description.constructorParameters .void)
      arguments (.initial description.fields) ⟨[], type.initialFields, world.output⟩ := by
    refine ⟨accepts.1, ?_⟩
    rw [LoadedType.initialFields, implements.fields]
    exact FieldStore.initial_agrees wellFormed.distinctFields
  obtain ⟨effect, machine, meaning, executed, printed, agrees⟩ :=
    implements.constructor.code.execute (implements.constructorContext_fits wellFormed) represents
  refine ⟨effect, _, _, meaning, World.construct_of_ok opened required executed, printed, ?_, ?_⟩
  · exact opened
  · refine ⟨machine.fields, ?_, ?_⟩
    · simp [World.object?, World.withObject]
    · rw [implements.fields]
      exact agrees

/-- The members that accept a call are those of the described methods that accept it. -/
theorem LoadedType.forall₂_acceptingMethods
    (implements : type.image.Implements description)
    (call : Call) :
    List.Forall₂ (Member.ImplementsMethod description type.image.strings)
      (description.accepting type.loader call)
      (type.acceptingMethods call.method call.arguments) := by
  unfold TypeDescription.accepting acceptingMethods methodsOfArity
  rw [List.filter_filter]
  apply List.rel_filter _ implements.methods
  intro method member implemented
  dsimp only
  rw [implemented.name, implemented.parameters, Bool.and_comm]

/-- The one method that accepts a call is the one whose member is called. -/
theorem LoadedType.dispatch_of_accepting
    (implements : type.image.Implements description)
    {call : Call}
    {method : MethodDescription}
    (only : description.accepting type.loader call = [method]) :
    ∃ member, type.dispatch call.method call.arguments = .ok member ∧
      member.ImplementsMethod description type.image.strings method := by
  have related := forall₂_acceptingMethods implements call
  rw [only] at related
  obtain ⟨member, rest, implemented, nothing, equal⟩ := List.forall₂_cons_left_iff.mp related
  obtain rfl := List.forall₂_nil_left_iff.mp nothing
  exact ⟨member, LoadedType.dispatch_eq_ok_iff.mpr equal, implemented⟩

/-- A call that one method accepts has the effect of the method. -/
theorem World.HasObject.invoke
    {reference : Reference}
    {store : FieldStore}
    (has : world.HasObject reference type store)
    (implements : type.image.Implements description)
    (wellFormed : description.IsWellFormed)
    {call : Call}
    {method : MethodDescription}
    (only : description.accepting type.loader call = [method]) :
    ∃ effect after, description.call? type.loader store call = some effect ∧
      world.invoke reference call.method call.arguments = (.ok effect.result, after) ∧
      after.output = world.output ++ effect.lines ∧
      after.HasObject reference type effect.store := by
  obtain ⟨values, found, agrees⟩ := has.there
  obtain ⟨member, meant, implemented⟩ := LoadedType.dispatch_of_accepting implements only
  obtain ⟨statements, readable, code⟩ := implemented.code
  have present : method ∈ description.accepting type.loader call := by
    rw [only]
    exact List.mem_singleton.mpr rfl
  obtain ⟨among, accepted⟩ := List.mem_filter.mp present
  have represents : Machine.Represents
      (description.memberContext method.name method.parameters method.result)
      call.arguments store ⟨[], values, world.output⟩ := by
    constructor
    · simp only [Bool.and_eq_true, decide_eq_true_eq] at accepted
      exact accepted.1.2.symm
    · rw [implements.fields] at agrees
      exact agrees
  obtain ⟨effect, machine, meaning, executed, printed, agreesAfter⟩ :=
    code.execute (implements.methodContext_fits wellFormed among) represents
  have run : world.methodRun ⟨type, values⟩ member call.arguments =
      (.ok effect.result, machine) := executed
  refine ⟨effect, world.withRun reference ⟨type, values⟩ machine, ?_, ?_, printed, ?_, ?_⟩
  · simp [TypeDescription.call?, only, readable, meaning]
  · rw [World.invoke_of_dispatch found has.opened meant, run]
    rfl
  · exact has.opened
  · refine ⟨machine.fields, ?_, ?_⟩
    · have inside := (List.getElem?_eq_some_iff.mp found).1
      simp [World.object?, World.withRun, inside]
    · rw [implements.fields]
      exact agreesAfter

/-- Calls that one method each accepts have the history that the description tells. -/
theorem World.HasObject.invokeAll
    {reference : Reference}
    {store : FieldStore}
    (has : world.HasObject reference type store)
    (implements : type.image.Implements description)
    (wellFormed : description.IsWellFormed)
    {calls : List Call}
    (unambiguous : ∀ call ∈ calls, ∃ method, description.accepting type.loader call = [method]) :
    ∃ history after, description.calls? type.loader store calls = some history ∧
      world.invokeAll reference calls = (history.results.map .ok, after) ∧
      after.output = world.output ++ history.lines ∧
      after.HasObject reference type history.store := by
  induction calls generalizing world store with
  | nil => exact ⟨⟨[], store, []⟩, world, rfl, rfl, (List.append_nil _).symm, has⟩
  | cons call rest inductionHypothesis =>
      obtain ⟨⟨method, only⟩, unambiguousLater⟩ := List.forall_mem_cons.mp unambiguous
      obtain ⟨effect, between, meaning, invoked, printed, hasBetween⟩ :=
        has.invoke implements wellFormed only
      obtain ⟨later, after, meanings, allInvoked, allPrinted, hasAfter⟩ :=
        inductionHypothesis hasBetween unambiguousLater
      refine ⟨⟨effect.result :: later.results, later.store, effect.lines ++ later.lines⟩, after,
        ?_, ?_, ?_, hasAfter⟩
      · simp [TypeDescription.calls?, meaning, meanings]
      · simp only [World.invokeAll, invoked, allInvoked]
        rfl
      · rw [allPrinted, printed, List.append_assoc]

/-- Reading a declared field gives its value in the store. -/
theorem World.HasObject.fieldValue
    {reference : Reference}
    {store : FieldStore}
    (has : world.HasObject reference type store)
    {field : Field}
    (present : field ∈ type.image.fields) :
    ∃ value, store field.name = some value ∧
      world.fieldValue reference field.name = .ok value := by
  obtain ⟨values, found, agrees⟩ := has.there
  obtain ⟨index, declared, located⟩ := exists_findField? (List.mem_map_of_mem present)
  obtain ⟨first, _⟩ := findField?_eq_some_iff.mp located
  obtain ⟨value, there, known⟩ := agrees.value located
  refine ⟨value, known, ?_⟩
  simp [World.fieldValue, found, has.opened, LoadedType.fieldIndex?, first, there]

end Calls

/--
Whatever steps have described a type, if its module has been stored in memory then a fresh loader loads
it, and an object of it, constructed from any arguments that the constructor takes and called any number
of times with arguments that exactly one method accepts, returns the values, prints the lines and has
the fields of the history that the description tells.
-/
theorem stored_type_runs_as_described
    {typeName : String}
    {steps : List DescriptionStep}
    {type : FrozenType}
    {module : PackedModule}
    (frozen : (TypeDescription.described typeName steps).freeze = .ok type)
    (generated : type.generate = .ok module)
    (short : module.bytes.length < 2 ^ 32)
    {options : StoreOptions}
    {directory path : String}
    {memory stored : MemoryFiles}
    (written : storeModule MemoryFiles.operations options directory module memory =
      (.ok path, stored))
    (world : World) :
    let loader := (world.openLoader directory options.extension).1
    ∃ loaded ready,
      (world.openLoader directory options.extension).2.load stored.read loader
        type.description.name = (.ok loaded, ready) ∧
      ∀ arguments, type.description.ConstructorAccepts loader arguments →
        ∀ calls : List Call,
          (∀ call ∈ calls, ∃ method, type.description.accepting loader call = [method]) →
          ∃ history reference constructed final,
            type.description.history? loader arguments calls = some history ∧
            ready.construct loaded arguments = (.ok reference, constructed) ∧
            constructed.invokeAll reference calls = (history.results.map .ok, final) ∧
            final.output = world.output ++ history.lines ∧
            ∀ field ∈ type.description.fields, ∃ value,
              history.store field.name = some value ∧
              final.fieldValue reference field.name = .ok value := by
  intro loader
  obtain ⟨same, qualified⟩ := TypeDescription.isQualifiedName_of_freeze frozen
  have wellFormed : type.description.IsWellFormed := by
    rw [same]
    exact TypeDescription.isWellFormed_described typeName steps
  unfold FrozenType.generate at generated
  obtain ⟨image, lowered, packed⟩ := Outcome.map_eq_ok_iff.mp generated
  have named : module.name = type.description.name := by rw [← packed]
  have bytes : module.bytes = image.encode := by rw [← packed]
  rw [bytes] at short
  -- What is loaded is the closure of the lowered image: its pool has the names of all parts as well.
  obtain ⟨decoded, implements⟩ := FrozenType.decode_of_lower lowered wellFormed short
  have distinct : (image.closure.methods.map Member.key).Nodup := by
    rw [implements.map_key]
    exact wellFormed.distinctMethods
  obtain ⟨table, accepted⟩ :=
    World.exists_readModule decoded (implements.isBound wellFormed) distinct
  rw [implements.name] at accepted
  rw [← same] at qualified
  have readable := MemoryFiles.read_of_storeModule written
  rw [named, bytes] at readable
  obtain ⟨identity, ready, loads, opened, printedNothing⟩ :=
    World.load_openLoader world qualified readable accepted
  let loaded : LoadedType := ⟨identity, loader,
    modulePath directory type.description.name options.extension, image.closure, table⟩
  have implemented : loaded.image.Implements type.description := implements
  refine ⟨loaded, ready, loads, ?_⟩
  intro arguments accepts calls unambiguous
  obtain ⟨effect, reference, constructed, meaning, constructs, printed, has⟩ :=
    World.construct_of_accepts implemented wellFormed opened accepts
  obtain ⟨later, final, meanings, invoked, allPrinted, hasFinal⟩ :=
    has.invokeAll implemented wellFormed unambiguous
  refine ⟨{ later with lines := effect.lines ++ later.lines }, reference, constructed, final, ?_,
    constructs, invoked, ?_, ?_⟩
  · change type.description.calls? loader effect.store calls = some later at meanings
    simp [TypeDescription.history?, meaning, meanings]
  · rw [allPrinted, printed, printedNothing, List.append_assoc]
  · intro field present
    rw [← implemented.fields] at present
    exact hasFinal.fieldValue present

/-- Steps that describe a type with a field; one of them is refused. -/
def labelSteps : List DescriptionStep :=
  [.addField "n" .string .privateAccess, .addField "n" .long .publicAccess,
    .setConstructor [.string] (.statements [.assign "n" 1]),
    .addMethod "f" .string [] (.statements [.returns (some (.field "n"))]),
    .insertBefore "f" [] (.statements [.print [.string "n=", .field "n"]])]

/-- What the steps describe. -/
def labelDescription : TypeDescription where
  name := "A"
  fields := [⟨"n", .string, .privateAccess⟩]
  constructor := some ⟨[.string], [.assign "n" 1]⟩
  methods :=
    [⟨"f", .string, [],
      [.statements [.print [.string "n=", .field "n"]],
        .statements [.returns (some (.field "n"))]]⟩]
  stage := .methods

/-- What the description is lowered to. -/
def labelModule : PackedModule where
  name := "A"
  bytes := ModuleImage.encode {
    name := "A"
    fields := labelDescription.fields
    explicitConstructor := true
    constructor :=
      ⟨constructorName, .void, [.string], [.loadParameter 0, .storeField 0, .returnVoid]⟩
    methods :=
      [⟨"f", .string, [],
        [.pushString 0, .loadField 0, .concatenate 2, .callExternal 1 1, .loadField 0,
          .returnValue]⟩]
    strings := ⟨[Bytes.ofText "n=", Bytes.ofText "println"]⟩ }

theorem stored_label_runs_as_described :
    ∃ loaded ready reference constructed final,
      (World.empty.openLoader "" "kiln").2.load
        (MemoryFiles.read ⟨[("A.kiln", labelModule.bytes)], [], false⟩) ⟨1⟩ "A" =
          (.ok loaded, ready) ∧
      ready.construct loaded [.string "x"] = (.ok reference, constructed) ∧
      constructed.invokeAll reference [⟨"f", []⟩] = ([.ok (.string "x")], final) ∧
      final.output = ["n=x"] := by
  have frozen : (TypeDescription.described "A" labelSteps).freeze = .ok ⟨labelDescription⟩ := by
    decide +kernel
  have generated : FrozenType.generate ⟨labelDescription⟩ = .ok labelModule := by decide +kernel
  have short : labelModule.bytes.length < 2 ^ 32 := by decide +kernel
  have written : storeModule MemoryFiles.operations ⟨"kiln", "tmp"⟩ "" ⟨"A", labelModule.bytes⟩
      MemoryFiles.empty = (.ok "A.kiln", ⟨[("A.kiln", labelModule.bytes)], [], false⟩) := by
    change @Eq (Except StoreError String × MemoryFiles) _ _
    decide +kernel
  obtain ⟨loaded, ready, loads, runs⟩ := stored_type_runs_as_described frozen generated short
    written World.empty
  obtain ⟨history, reference, constructed, final, meaning, constructs, invoked, printed, _⟩ :=
    runs [.string "x"] ⟨rfl, rfl⟩ [⟨"f", []⟩] (by
      intro call present
      obtain rfl := List.mem_singleton.mp present
      exact ⟨_, rfl⟩)
  have known : (labelDescription.history? ⟨1⟩ [.string "x"] [⟨"f", []⟩]).map
      (fun history => (history.results, history.lines)) = some ([.string "x"], ["n=x"]) := by
    decide +kernel
  change labelDescription.history? ⟨1⟩ [.string "x"] [⟨"f", []⟩] = some history at meaning
  rw [meaning] at known
  obtain ⟨results, lines⟩ := Prod.mk.inj (Option.some.inj known)
  rw [results] at invoked
  rw [lines] at printed
  exact ⟨loaded, ready, reference, constructed, final, loads, constructs, invoked, printed⟩

end LateBinding
