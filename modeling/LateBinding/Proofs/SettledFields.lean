import LateBinding.Proofs.RepeatedCalls
import Mathlib.Data.Option.Basic

/-!
# Fields after repeated calls

A method of a described type assigns nothing but its arguments.  A call that is made again finds the fields as
it leaves them, so any number of calls in a row leaves the objects as the first one does.  It does not matter
what other modules the program loads.
-/

namespace LateBinding

/-- A store says all values of an object. -/
theorem FieldStore.Agrees.values_eq
    {store : FieldStore}
    {fields : List Field}
    {values others : List Value}
    (agrees : store.Agrees fields values)
    (othersAgree : store.Agrees fields others) :
    values = others :=
  List.map_injective_iff.mpr (Option.some_injective Value) (agrees.trans othersAgree.symm)

namespace World

variable {world after : World} {reference : Reference}

/-! ## What calls leave alone -/

theorem getElem?_objects_invoke_of_ne
    (world : World)
    (name : String)
    (arguments : List Value)
    {number : Nat}
    (other : reference.object ≠ number) :
    (world.invoke reference name arguments).2.objects[number]? = world.objects[number]? := by
  rcases world.invoke_cases reference name arguments with
    ⟨error, _, refused⟩ | ⟨object, member, found, opened, meant⟩
  · rw [refused]
  · rw [invoke_of_dispatch found opened meant, getElem?_withRun found, if_neg other]

/-- Calls of an object leave all other objects alone. -/
theorem getElem?_objects_invokeAll_of_ne
    (world : World)
    (calls : List Call)
    {number : Nat}
    (other : reference.object ≠ number) :
    (world.invokeAll reference calls).2.objects[number]? = world.objects[number]? := by
  induction calls generalizing world with
  | nil => rfl
  | cons call rest inductionHypothesis =>
      exact (inductionHypothesis (world.invoke reference call.method call.arguments).2).trans
        (world.getElem?_objects_invoke_of_ne call.method call.arguments other)

/-- Calls of an object leave the loaders alone. -/
theorem loaders_invokeAll (world : World) (reference : Reference) (calls : List Call) :
    (world.invokeAll reference calls).2.loaders = world.loaders := by
  induction calls generalizing world with
  | nil => rfl
  | cons call rest inductionHypothesis =>
      exact (inductionHypothesis (world.invoke reference call.method call.arguments).2).trans
        (world.loaders_invoke reference call.method call.arguments)

/-- What reading a field gives is decided by the objects and the loaders. -/
theorem fieldValue_congr
    (objects : after.objects = world.objects)
    (loaders : after.loaders = world.loaders)
    (reference : Reference)
    (name : String) :
    after.fieldValue reference name = world.fieldValue reference name := by
  unfold fieldValue object? isOpen loader?
  rw [objects, loaders]

/-- A call that is refused once is refused each time. -/
theorem invokeAll_replicate_of_refused
    {call : Call}
    {error : CallError}
    (refused : world.invoke reference call.method call.arguments = (.error error, world))
    (count : Nat) :
    world.invokeAll reference (List.replicate count call) =
      (List.replicate count (.error error), world) := by
  induction count with
  | zero => rfl
  | succ count inductionHypothesis =>
      rw [List.replicate_succ, invokeAll, refused]
      dsimp only
      rw [inductionHypothesis]
      rfl

/-- Worlds that differ in one object at most have the same ones if a store says its values in both. -/
theorem HasObject.objects_eq
    {type : LoadedType}
    {store : FieldStore}
    (has : world.HasObject reference type store)
    (hasAfter : after.HasObject reference type store)
    (others : ∀ number, reference.object ≠ number → after.objects[number]? = world.objects[number]?) :
    after.objects = world.objects := by
  obtain ⟨values, found, agrees⟩ := has.there
  obtain ⟨valuesAfter, foundAfter, agreesAfter⟩ := hasAfter.there
  obtain rfl := agrees.values_eq agreesAfter
  apply List.ext_getElem?
  intro number
  by_cases same : reference.object = number
  · subst same
    exact foundAfter.trans found.symm
  · exact others number same

/-! ## Calls of described methods -/

variable {description : TypeDescription} {object : Object}

/-- Accepted calls in a row all succeed, and leave the objects as the first one does. -/
theorem invokeAll_replicate_of_dispatch
    (found : world.object? reference = some object)
    (opened : world.isOpen object.type.loader = true)
    (complete : object.fields.length = object.type.image.fields.length)
    (implements : object.type.image.Implements description)
    (wellFormed : description.IsWellFormed)
    {call : Call}
    {member : Member}
    (meant : object.type.dispatch call.method call.arguments = .ok member)
    (count : Nat) :
    (∃ results : List Value,
      (world.invokeAll reference (List.replicate (count + 1) call)).1 = results.map .ok) ∧
      (world.invokeAll reference (List.replicate (count + 1) call)).2.objects =
        (world.invoke reference call.method call.arguments).2.objects := by
  have agrees := object.agrees_of_implements implements wellFormed complete
  have has : world.HasObject reference object.type
      (FieldStore.ofValues object.type.image.fields object.fields) :=
    ⟨opened, object.fields, found, agrees⟩
  obtain ⟨method, only, _⟩ := LoadedType.accepting_of_dispatch implements meant
  obtain ⟨_, first, later, _, _, _, repeats⟩ := has.invokeRepeatedly implements wellFormed only
  -- One call and many leave the fields in the same store.
  obtain ⟨once, invokedOnce, _, hasOnce⟩ := repeats 0
  obtain ⟨final, invoked, _, hasFinal⟩ := repeats count
  have sameOnce : (world.invoke reference call.method call.arguments).2 = once :=
    congrArg Prod.snd invokedOnce
  rw [invoked, sameOnce]
  refine ⟨⟨first.result :: List.replicate count later.result, ?_⟩, hasOnce.objects_eq hasFinal ?_⟩
  · rw [List.map_cons, List.map_replicate]
  · intro number other
    have kept := world.getElem?_objects_invokeAll_of_ne (List.replicate (count + 1) call) other
    have keptOnce := world.getElem?_objects_invoke_of_ne call.method call.arguments other
    rw [invoked] at kept
    rw [sameOnce] at keptOnce
    exact kept.trans keptOnce.symm

/-- Calls in a row leave the objects as the first one does, whether they are accepted or refused. -/
theorem objects_invokeAll_replicate
    (found : world.object? reference = some object)
    (complete : object.fields.length = object.type.image.fields.length)
    (implements : object.type.image.Implements description)
    (wellFormed : description.IsWellFormed)
    (call : Call)
    (count : Nat) :
    (world.invokeAll reference (List.replicate (count + 1) call)).2.objects =
      (world.invoke reference call.method call.arguments).2.objects := by
  rcases world.invoke_cases reference call.method call.arguments with
    ⟨error, _, refused⟩ | ⟨other, member, there, opened, meant⟩
  · rw [invokeAll_replicate_of_refused refused, refused]
  · obtain rfl := Option.some.inj (there.symm.trans found)
    exact (invokeAll_replicate_of_dispatch found opened complete implements wellFormed meant count).2

end World

namespace Session

/--
Whatever a program has loaded besides, calls of an object of a described type leave all fields as they are after
the first call, however many there are in a row, and accepted calls all succeed.
-/
theorem run_settles_fields
    {type : FrozenType}
    (described : type.IsDescribed)
    {content : Bytes}
    (generated : content.IsModuleOf {type})
    (actions : List Action)
    {reference : Reference}
    {object : Object}
    (found : (run actions).world.object? reference = some object)
    (decoded : ModuleImage.decode content = .ok object.type.image)
    (name : String)
    (arguments : List Value)
    (count : Nat) :
    let once := (run actions).world.invoke reference name arguments
    let repeated :=
      (run actions).world.invokeAll reference (List.replicate (count + 1) ⟨name, arguments⟩)
    repeated.2.objects = once.2.objects ∧
      (∀ other field, repeated.2.fieldValue other field = once.2.fieldValue other field) ∧
      ((run actions).world.isOpen object.type.loader = true →
        ∀ member, object.type.dispatch name arguments = .ok member →
          ∃ results : List Value, repeated.1 = results.map .ok) := by
  intro once repeated
  have complete := run_object_isComplete actions found
  have generatedBy : object.type.IsGeneratedBy type := ⟨content, generated, decoded⟩
  have implements := generatedBy.implements described
  have objects : repeated.2.objects = once.2.objects :=
    World.objects_invokeAll_replicate found complete implements described.isWellFormed
      ⟨name, arguments⟩ count
  have loaders : repeated.2.loaders = once.2.loaders :=
    ((run actions).world.loaders_invokeAll reference _).trans
      ((run actions).world.loaders_invoke reference name arguments).symm
  refine ⟨objects, World.fieldValue_congr objects loaders, ?_⟩
  intro opened member meant
  exact (World.invokeAll_replicate_of_dispatch found opened complete implements described.isWellFormed
    meant count).1

theorem run_cellActions_settles_fields :
    (run cellActions).world.fieldValue ⟨0, "A", ⟨1⟩⟩ "n" = .ok (.string "a") ∧
      ∀ count, ((run cellActions).world.invokeAll ⟨0, "A", ⟨1⟩⟩
        (List.replicate (count + 1) ⟨"swap", [.string "b"]⟩)).2.fieldValue ⟨0, "A", ⟨1⟩⟩ "n" =
          .ok (.string "b") := by
  have initially : (run cellActions).world.fieldValue ⟨0, "A", ⟨1⟩⟩ "n" = .ok (.string "a") := by
    decide +kernel
  have once : ((run cellActions).world.invoke ⟨0, "A", ⟨1⟩⟩ "swap" [.string "b"]).2.fieldValue
      ⟨0, "A", ⟨1⟩⟩ "n" = .ok (.string "b") := by
    decide +kernel
  obtain ⟨described, reads⟩ := cellActions_readModules
  have generated : cellModule.bytes.IsModuleOf {⟨cellDescription⟩} :=
    reads _ (List.mem_cons_of_mem _ List.mem_cons_self) "" _ rfl
  obtain ⟨object, found, decoded⟩ := run_cellActions_decodes
  refine ⟨initially, fun count => ?_⟩
  obtain ⟨_, fields, _⟩ := run_settles_fields (described _ rfl) generated cellActions found decoded
    "swap" [.string "b"] count
  exact (fields ⟨0, "A", ⟨1⟩⟩ "n").trans once

end Session
end LateBinding
