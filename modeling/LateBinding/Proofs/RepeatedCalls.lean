import LateBinding.Proofs.Calling.Safety
import LateBinding.Proofs.Descriptor.Repetition
import LateBinding.Proofs.TypeSoundness

/-!
# Repeated calls

A call of an object of a described type that is made several times in a row succeeds each time.  From the
second time on it prints the same lines.  The first time it prints them too if the method prints no field
that it assigns only afterwards; a method that does so prints the old value once.  It does not matter what
other modules the program loads, nor whether other versions of the type are among them.
-/

namespace LateBinding

section Calls

variable {description : TypeDescription} {type : LoadedType}

/-- A call that means a member is accepted by one described method only, whose member it is. -/
theorem LoadedType.accepting_of_dispatch
    (implements : type.image.Implements description)
    {call : Call}
    {member : Member}
    (meant : type.dispatch call.method call.arguments = .ok member) :
    ∃ method, description.accepting type.loader call = [method] ∧
      member.ImplementsMethod description type.image.strings method := by
  have related := forall₂_acceptingMethods implements call
  rw [dispatch_eq_ok_iff.mp meant] at related
  obtain ⟨method, rest, implemented, nothing, equal⟩ := List.forall₂_cons_right_iff.mp related
  obtain rfl := List.forall₂_nil_right_iff.mp nothing
  exact ⟨method, equal, implemented⟩

theorem TypeDescription.call?_eq_some_iff
    {loader : LoaderId}
    {call : Call}
    {method : MethodDescription}
    (only : description.accepting loader call = [method])
    {store : FieldStore}
    {effect : Effect} :
    description.call? loader store call = some effect ↔
      ∃ statements, method.statements? = some statements ∧
        effect? call.arguments store statements = some effect := by
  rw [call?, only]
  exact Option.bind_eq_some_iff

/-- A call that one method accepts can be repeated, and all but the first have the same effect. -/
theorem World.HasObject.invokeRepeatedly
    {world : World}
    {reference : Reference}
    {store : FieldStore}
    (has : world.HasObject reference type store)
    (implements : type.image.Implements description)
    (wellFormed : description.IsWellFormed)
    {call : Call}
    {method : MethodDescription}
    (only : description.accepting type.loader call = [method]) :
    ∃ statements first later, method.statements? = some statements ∧
      effect? call.arguments store statements = some first ∧
      effect? call.arguments first.store statements = some later ∧
      ∀ count, ∃ after,
        world.invokeAll reference (List.replicate (count + 1) call) =
          (.ok first.result :: List.replicate count (.ok later.result), after) ∧
        after.output = world.output ++ (first.lines ++ (List.replicate count later.lines).flatten) ∧
        after.HasObject reference type first.store := by
  obtain ⟨first, between, called, _, _, hasBetween⟩ := has.invoke implements wellFormed only
  obtain ⟨later, _, calledAgain, _⟩ := hasBetween.invoke implements wellFormed only
  obtain ⟨statements, readable, meaning⟩ := (TypeDescription.call?_eq_some_iff only).mp called
  obtain ⟨_, readableAgain, meaningAgain⟩ :=
    (TypeDescription.call?_eq_some_iff only).mp calledAgain
  obtain rfl := Option.some.inj (readable.symm.trans readableAgain)
  refine ⟨statements, first, later, readable, meaning, meaningAgain, ?_⟩
  intro count
  have unambiguous : ∀ other ∈ List.replicate (count + 1) call,
      ∃ method, description.accepting type.loader other = [method] := by
    intro other present
    rw [List.eq_of_mem_replicate present]
    exact ⟨method, only⟩
  obtain ⟨history, after, meanings, invoked, printed, hasAfter⟩ :=
    has.invokeAll implements wellFormed unambiguous
  rw [TypeDescription.calls?_replicate called calledAgain
    (store_of_effect?_again meaning meaningAgain) count] at meanings
  obtain rfl := Option.some.inj meanings
  refine ⟨after, ?_, printed, hasAfter⟩
  rw [invoked, List.map_cons, List.map_replicate]

end Calls

/-- An object with a value for each field of a described type has the fields that a store gives it. -/
theorem Object.agrees_of_implements
    {description : TypeDescription}
    {object : Object}
    (implements : object.type.image.Implements description)
    (wellFormed : description.IsWellFormed)
    (complete : object.fields.length = object.type.image.fields.length) :
    (FieldStore.ofValues object.type.image.fields object.fields).Agrees
      object.type.image.fields object.fields := by
  apply FieldStore.ofValues_agrees _ complete
  rw [implements.fields]
  exact wellFormed.distinctFields

namespace Session

/-- In every run of a program over any files, an object has a value for each field of its type. -/
theorem run_object_isComplete
    (actions : List Action)
    {reference : Reference}
    {object : Object}
    (found : (run actions).world.object? reference = some object) :
    object.fields.length = object.type.image.fields.length := by
  have verified : (run actions).Satisfies LoadedType.IsVerified Object.IsVerified :=
    run_satisfies keptByRuns_isVerified fun action _ => action.yields_isVerified
  exact (verified.world.objects object (World.object_mem found)).complete

/--
Whatever a program has loaded besides, a call that means a method of an object of a described type can be
made any number of times.  Each time after the first it prints the same lines, and the first time as well
if the method prints no field that it assigns only afterwards.
-/
theorem run_repeats_lines
    {type : FrozenType}
    (described : type.IsDescribed)
    (actions : List Action)
    {reference : Reference}
    {object : Object}
    (found : (run actions).world.object? reference = some object)
    (generated : object.type.IsGeneratedBy type)
    (opened : (run actions).world.isOpen object.type.loader = true)
    {name : String}
    {arguments : List Value}
    {member : Member}
    (meant : object.type.dispatch name arguments = .ok member) :
    object.type.name = type.description.name ∧
      ∃ method ∈ type.description.methods, method.key = member.key ∧ method.result = member.result ∧
        ∃ statements first later, method.statements? = some statements ∧
          (∀ count, ∃ (results : List Value) (after : World),
            (run actions).world.invokeAll reference (List.replicate (count + 1) ⟨name, arguments⟩) =
              (results.map .ok, after) ∧
            after.output =
              (run actions).world.output ++ (first ++ (List.replicate count later).flatten)) ∧
          (PrintsSettledFields statements → first = later) := by
  have implements := generated.implements described
  have agrees := object.agrees_of_implements implements described.isWellFormed
    (run_object_isComplete actions found)
  let call : Call := ⟨name, arguments⟩
  obtain ⟨method, only, implemented⟩ :
      ∃ method, type.description.accepting object.type.loader call = [method] ∧
        member.ImplementsMethod type.description object.type.image.strings method :=
    LoadedType.accepting_of_dispatch implements meant
  have has : (run actions).world.HasObject reference object.type
      (FieldStore.ofValues object.type.image.fields object.fields) :=
    ⟨opened, object.fields, found, agrees⟩
  obtain ⟨statements, first, later, readable, meaning, meaningAgain, repeats⟩ :=
    has.invokeRepeatedly implements described.isWellFormed only
  have declared : method ∈ type.description.methods := by
    apply List.mem_of_mem_filter
    rw [← TypeDescription.accepting, only]
    exact List.mem_singleton.mpr rfl
  refine ⟨implements.name, method, declared, ?_, implemented.result.symm, statements, first.lines,
    later.lines, readable, ?_, ?_⟩
  · rw [MethodDescription.key, Member.key, implemented.name, implemented.parameters]
  · intro count
    obtain ⟨after, invoked, printed, _⟩ := repeats count
    refine ⟨first.result :: List.replicate count later.result, after, ?_, printed⟩
    rw [invoked, List.map_cons, List.map_replicate]
  · intro settled
    exact (settled.lines_again meaning meaningAgain).symm

/-- Steps that describe a type with two methods, each of which prints a field and assigns it. -/
def cellSteps : List DescriptionStep :=
  [.addField "n" .string .privateAccess,
    .setConstructor [.string] (.statements [.assign "n" 1]),
    .addMethod "swap" .void [.string] (.statements [.print [.field "n"], .assign "n" 1]),
    .addMethod "set" .void [.string] (.statements [.assign "n" 1, .print [.field "n"]])]

/-- What the steps describe. -/
def cellDescription : TypeDescription where
  name := "A"
  fields := [⟨"n", .string, .privateAccess⟩]
  constructor := some ⟨[.string], [.assign "n" 1]⟩
  methods :=
    [⟨"swap", .void, [.string], [.statements [.print [.field "n"], .assign "n" 1]]⟩,
      ⟨"set", .void, [.string], [.statements [.assign "n" 1, .print [.field "n"]]]⟩]
  stage := .methods

/-- What the description is lowered to. -/
def cellModule : PackedModule where
  name := "A"
  bytes := ModuleImage.encode {
    name := "A"
    fields := cellDescription.fields
    explicitConstructor := true
    constructor :=
      ⟨constructorName, .void, [.string], [.loadParameter 0, .storeField 0, .returnVoid]⟩
    methods :=
      [⟨"swap", .void, [.string],
        [.loadField 0, .callExternal 0 1, .loadParameter 0, .storeField 0, .returnVoid]⟩,
      ⟨"set", .void, [.string],
        [.loadParameter 0, .storeField 0, .loadField 0, .callExternal 0 1, .returnVoid]⟩]
    strings := ⟨[Bytes.ofText "println"]⟩ }

/-- A program that loads the module and constructs an object. -/
def cellActions : List Action :=
  [.openLoader "d" ".kiln", .load (fun _ => .ok cellModule.bytes) ⟨1⟩ "A",
    .construct 0 [.string "a"]]

theorem cellActions_readModules :
    (∀ type ∈ ({⟨cellDescription⟩} : Set FrozenType), type.IsDescribed) ∧
      ∀ action ∈ cellActions, action.ReadsModulesOf {⟨cellDescription⟩} := by
  have generated : cellModule.bytes.IsModuleOf {⟨cellDescription⟩} :=
    ⟨by decide +kernel, _, rfl, cellModule, by decide +kernel, rfl⟩
  constructor
  · rintro type rfl
    exact ⟨"A", cellSteps, by decide +kernel⟩
  · exact Action.readsModulesOf_of_isModuleOf generated _ _ _ _ _ _

/-- The image of the object is decoded from the module. -/
theorem run_cellActions_decodes :
    ∃ object, (run cellActions).world.object? ⟨0, "A", ⟨1⟩⟩ = some object ∧
      ModuleImage.decode cellModule.bytes = .ok object.type.image := by
  have loaded : ((run cellActions).world.object? ⟨0, "A", ⟨1⟩⟩).map
      (fun object => Except.ok object.type.image) = some (ModuleImage.decode cellModule.bytes) := by
    decide +kernel
  obtain ⟨object, found, decoded⟩ := Option.map_eq_some_iff.mp loaded
  exact ⟨object, found, decoded.symm⟩

theorem run_cellActions_repeats_lines :
    ∃ lines, ∀ count, ∃ (results : List Value) (after : World),
      (run cellActions).world.invokeAll ⟨0, "A", ⟨1⟩⟩
          (List.replicate (count + 1) ⟨"set", [.string "b"]⟩) = (results.map .ok, after) ∧
        after.output = (List.replicate (count + 1) lines).flatten := by
  obtain ⟨described, reads⟩ := cellActions_readModules
  have generated : cellModule.bytes.IsModuleOf {⟨cellDescription⟩} :=
    reads _ (List.mem_cons_of_mem _ List.mem_cons_self) "" _ rfl
  have opened : ((run cellActions).world.object? ⟨0, "A", ⟨1⟩⟩).map
      (fun object => (run cellActions).world.isOpen object.type.loader) = some true := by decide +kernel
  have meant : ((run cellActions).world.object? ⟨0, "A", ⟨1⟩⟩).map
      (fun object => (object.type.dispatch "set" [.string "b"]).map Member.key) =
        some (.ok ("set", [.string])) := by decide +kernel
  have silent : (run cellActions).world.output = [] := by decide +kernel
  obtain ⟨object, found, decoded⟩ := run_cellActions_decodes
  rw [found] at opened meant
  obtain ⟨member, meant, keyed⟩ := Outcome.map_eq_ok_iff.mp (Option.some.inj meant)
  obtain ⟨_, method, declared, sameKey, _, statements, first, later, readable, repeats, same⟩ :=
    run_repeats_lines (described _ rfl) cellActions found ⟨_, generated, decoded⟩
      (Option.some.inj opened) meant
  rw [keyed] at sameKey
  obtain rfl : statements = [.assign "n" 1, .print [.field "n"]] := by
    rcases List.mem_cons.mp declared with rfl | declared
    · exact absurd (Prod.mk.inj sameKey).1 (by decide)
    · obtain rfl := List.mem_singleton.mp declared
      exact (Option.some.inj readable).symm
  obtain rfl := same (by decide)
  refine ⟨first, fun count => ?_⟩
  obtain ⟨results, after, invoked, printed⟩ := repeats count
  refine ⟨results, after, invoked, ?_⟩
  rw [printed, silent, List.nil_append, List.replicate_succ, List.flatten_cons]

/-- A method that prints a field and then assigns it prints the old value only once. -/
theorem run_cellActions_swaps :
    (∀ type ∈ ({⟨cellDescription⟩} : Set FrozenType), type.IsDescribed) ∧
    (∀ action ∈ cellActions, action.ReadsModulesOf {⟨cellDescription⟩}) ∧
    ∃ between after,
      (run cellActions).world.invoke ⟨0, "A", ⟨1⟩⟩ "swap" [.string "b"] = (.ok .null, between) ∧
      between.invoke ⟨0, "A", ⟨1⟩⟩ "swap" [.string "b"] = (.ok .null, after) ∧
      between.output = ["a"] ∧ after.output = ["a", "b"] := by
  have first : Prod.map id World.output
      ((run cellActions).world.invoke ⟨0, "A", ⟨1⟩⟩ "swap" [.string "b"]) =
        (.ok .null, ["a"]) := by decide +kernel
  have second : Prod.map id World.output
      (((run cellActions).world.invoke ⟨0, "A", ⟨1⟩⟩ "swap" [.string "b"]).2.invoke
        ⟨0, "A", ⟨1⟩⟩ "swap" [.string "b"]) = (.ok .null, ["a", "b"]) := by decide +kernel
  obtain ⟨called, lines⟩ := Prod.mk.inj first
  obtain ⟨calledAgain, linesAgain⟩ := Prod.mk.inj second
  exact ⟨cellActions_readModules.1, cellActions_readModules.2, _, _, Prod.ext called rfl,
    Prod.ext calledAgain rfl, lines, linesAgain⟩

end Session
end LateBinding
