import LateBinding.Proofs.Calling.Renaming
import LateBinding.Proofs.Loading.Load
import Mathlib.Data.Set.Function

/-!
# Worlds without a loader

A world mirrors another one when it has all of the other's loaders and objects but those of one loader,
the hidden one, under numbers of its own.  What is done with the hidden loader does not show in the
mirror; what is done with any other loader comes to the same in both worlds.
-/

namespace LateBinding

/-- A loader that holds its types under other identities. -/
def Loader.renamed (names : Renaming) (loader : Loader) : Loader :=
  { loader with cache := loader.cache.map (Prod.map id (LoadedType.renamed names)) }

theorem lookup_map_renamed
    (names : Renaming)
    (cache : List (String × LoadedType))
    (name : String) :
    (cache.map (Prod.map id (LoadedType.renamed names))).lookup name =
      (cache.lookup name).map (LoadedType.renamed names) := by
  induction cache with
  | nil => rfl
  | cons entry rest inductionHypothesis =>
      obtain ⟨key, type⟩ := entry
      rw [List.map_cons, Prod.map_apply, id_eq, List.lookup_cons, List.lookup_cons,
        inductionHypothesis]
      cases name == key with
      | true => rfl
      | false => rfl

namespace World

/-- The numbers of the objects of all loaders but one. -/
def visible (world : World) (hidden : LoaderId) : Set Nat :=
  {number | ∃ object, world.objects[number]? = some object ∧ object.type.loader ≠ hidden}

/-- A world mirrors the full one when it has all of it but a hidden loader, under other numbers. -/
structure Mirrors (hidden : LoaderId) (names : Renaming) (full rest : World) : Prop where
  /-- There are as many loaders. -/
  count : rest.loaders.length = full.loaders.length
  /-- The other loaders hold the same types. -/
  loaders : ∀ id ≠ hidden, rest.loader? id = (full.loader? id).map (Loader.renamed names)
  /-- The objects of the other loaders have the same values. -/
  objects : ∀ number object, full.objects[number]? = some object → object.type.loader ≠ hidden →
    rest.objects[names.objects number]? = some (object.renamed names)
  /-- The objects of the other loaders are kept apart. -/
  distinct : Set.InjOn names.objects (full.visible hidden)

/-- Two worlds that differ in nothing but a hidden loader and its objects. -/
structure AgreesBut (hidden : LoaderId) (before after : World) : Prop where
  count : after.loaders.length = before.loaders.length
  loaders : ∀ id ≠ hidden, after.loader? id = before.loader? id
  objects : ∀ (number : Nat) (object : Object), object.type.loader ≠ hidden →
    (after.objects[number]? = some object ↔ before.objects[number]? = some object)

variable {hidden : LoaderId} {names : Renaming} {full rest : World}

theorem Mirrors.of_agreesBut
    (mirrors : full.Mirrors hidden names rest)
    {after : World}
    (agrees : full.AgreesBut hidden after) :
    after.Mirrors hidden names rest := by
  constructor
  · rw [agrees.count]
    exact mirrors.count
  · intro id visible
    rw [agrees.loaders id visible]
    exact mirrors.loaders id visible
  · intro number object there visible
    exact mirrors.objects number object ((agrees.objects number object visible).mp there) visible
  · apply mirrors.distinct.mono
    rintro number ⟨object, there, visible⟩
    exact ⟨object, (agrees.objects number object visible).mp there, visible⟩

/-! ## What is done with the hidden loader -/

namespace AgreesBut

variable {world : World}

theorem refl (hidden : LoaderId) (world : World) : world.AgreesBut hidden world where
  count := rfl
  loaders _ _ := rfl
  objects _ _ _ := Iff.rfl

/-- Printing does not show in the loaders and objects. -/
theorem withOutput
    (world : World)
    (output : List String) :
    world.AgreesBut hidden { world with output } where
  count := rfl
  loaders _ _ := rfl
  objects _ _ _ := Iff.rfl

theorem load
    (world : World)
    (read : String → Except FileError Bytes)
    (hidden : LoaderId)
    (name : String) :
    world.AgreesBut hidden (world.load read hidden name).2 := by
  rcases world.load_cases read hidden name with ⟨error, failed⟩ | ⟨_, _, _, _, _, loads⟩ |
    ⟨loader, image, table, finds⟩
  · rw [failed]
    exact .refl hidden world
  · rw [loads]
    exact .refl hidden world
  · rw [finds.load]
    refine ⟨List.length_set, ?_, fun _ _ _ => Iff.rfl⟩
    intro id visible
    rw [loader?_withType finds.there, if_neg visible]

theorem closeLoader
    (world : World)
    (hidden : LoaderId) :
    world.AgreesBut hidden (world.closeLoader hidden) := by
  refine ⟨?_, ?_, ?_⟩
  · unfold World.closeLoader
    split
    · rfl
    · exact List.length_set
  · intro id visible
    rw [loader?_closeLoader, if_neg visible]
  · intro number object _
    rw [objects_closeLoader]

theorem construct
    (world : World)
    {type : LoadedType}
    (isHidden : type.loader = hidden)
    (arguments : List Value) :
    world.AgreesBut hidden (world.construct type arguments).2 := by
  rcases world.construct_cases type arguments with ⟨error, _, refused⟩ | ⟨opened, required⟩
  · rw [refused]
    exact .refl hidden world
  · rcases run : world.constructorRun type arguments with ⟨result, machine⟩
    cases result with
    | error reason =>
        rw [construct_of_error opened required run]
        exact withOutput world machine.output
    | ok value =>
        rw [construct_of_ok opened required run]
        refine ⟨rfl, fun _ _ => rfl, ?_⟩
        intro number object visible
        constructor
        · intro there
          rcases object_of_withObject there with before | ⟨_, rfl⟩
          · exact before
          · exact absurd isHidden visible
        · intro there
          exact (List.getElem?_append_left (List.getElem?_eq_some_iff.mp there).1).trans there

theorem invoke
    {reference : Reference}
    {object : Object}
    (found : world.object? reference = some object)
    (isHidden : object.type.loader = hidden)
    (name : String)
    (arguments : List Value) :
    world.AgreesBut hidden (world.invoke reference name arguments).2 := by
  rcases world.invoke_cases reference name arguments with
    ⟨error, _, refused⟩ | ⟨other, method, foundOther, opened, meant⟩
  · rw [refused]
    exact .refl hidden world
  · obtain rfl := Option.some.inj (found.symm.trans foundOther)
    rw [invoke_of_dispatch found opened meant]
    refine ⟨rfl, fun _ _ => rfl, ?_⟩
    intro number other visible
    rw [getElem?_withRun found]
    split
    · next same =>
      -- The object at this number is hidden, before and after.
      subst same
      constructor
      · intro there
        obtain rfl := Option.some.inj there
        exact absurd isHidden visible
      · intro there
        obtain rfl := Option.some.inj (found.symm.trans there)
        exact absurd isHidden visible
    · rfl

end AgreesBut

/-! ## What is done with other loaders -/

/-- An operation comes to the same in two worlds, and prints the same lines. -/
structure OutcomesMirror
    {Result : Type}
    (hidden : LoaderId)
    (names : Renaming)
    (rename : Result → Result)
    (full rest : World)
    (outcome other : Result × World) : Prop where
  /-- The results are the same. -/
  result : other.1 = rename outcome.1
  /-- The worlds still mirror each other. -/
  world : outcome.2.Mirrors hidden names other.2
  /-- The same lines are printed. -/
  printed : ∃ lines, outcome.2.output = full.output ++ lines ∧ other.2.output = rest.output ++ lines

theorem Mirrors.isOpen
    (mirrors : full.Mirrors hidden names rest)
    {id : LoaderId}
    (visible : id ≠ hidden) :
    rest.isOpen id = full.isOpen id := by
  rw [World.isOpen, World.isOpen, mirrors.loaders id visible]
  cases full.loader? id with
  | none => rfl
  | some loader => rfl

/-- A result that leaves the worlds as they are. -/
theorem Mirrors.unchanged
    {Result : Type}
    {rename : Result → Result}
    (mirrors : full.Mirrors hidden names rest)
    (result : Result) :
    OutcomesMirror hidden names rename full rest (result, full) (rename result, rest) :=
  ⟨rfl, mirrors, [], (List.append_nil _).symm, (List.append_nil _).symm⟩

/-- An operation that is refused in both worlds. -/
theorem Mirrors.refused
    {Fault Result : Type}
    {rename : Result → Result}
    (mirrors : full.Mirrors hidden names rest)
    (fault : Fault) :
    OutcomesMirror hidden names (Except.map rename) full rest
      (Except.error fault, full) (Except.error fault, rest) :=
  mirrors.unchanged (Except.error fault)

theorem Mirrors.withOutput
    (mirrors : full.Mirrors hidden names rest)
    (output outputRest : List String) :
    Mirrors hidden names { full with output } { rest with output := outputRest } :=
  ⟨mirrors.count, mirrors.loaders, mirrors.objects, mirrors.distinct⟩

theorem Mirrors.openLoader
    (mirrors : full.Mirrors hidden names rest)
    (directory ending : String) :
    (full.openLoader directory ending).2.Mirrors hidden names
      (rest.openLoader directory ending).2 := by
  have sameId : (rest.openLoader directory ending).1 = (full.openLoader directory ending).1 := by
    simp [World.openLoader, mirrors.count]
  refine ⟨?_, ?_, mirrors.objects, mirrors.distinct⟩
  · simp [World.openLoader, mirrors.count]
  · intro id visible
    by_cases new : id = (full.openLoader directory ending).1
    · subst new
      rw [loader?_openLoader, ← sameId, loader?_openLoader]
      rfl
    · rw [loader?_openLoader_of_ne _ _ _ new, loader?_openLoader_of_ne _ _ _ (sameId ▸ new)]
      exact mirrors.loaders id visible

theorem Mirrors.setLoader
    (mirrors : full.Mirrors hidden names rest)
    {id : LoaderId}
    (visible : id ≠ hidden)
    {loader : Loader}
    (there : full.loader? id = some loader)
    (changed : Loader) :
    (full.setLoader id changed).Mirrors hidden names
      (rest.setLoader id (changed.renamed names)) := by
  have thereRest : rest.loader? id = some (loader.renamed names) := by
    rw [mirrors.loaders id visible, there]
    rfl
  refine ⟨?_, ?_, mirrors.objects, mirrors.distinct⟩
  · simp [World.setLoader, mirrors.count]
  · intro other visibleOther
    rw [loader?_setLoader there, loader?_setLoader thereRest]
    split
    · rfl
    · exact mirrors.loaders other visibleOther

theorem Mirrors.closeLoader
    (mirrors : full.Mirrors hidden names rest)
    {id : LoaderId}
    (visible : id ≠ hidden) :
    (full.closeLoader id).Mirrors hidden names (rest.closeLoader id) := by
  have sameLoader := mirrors.loaders id visible
  cases there : full.loader? id with
  | none =>
      rw [there] at sameLoader
      simp only [World.closeLoader, there, sameLoader]
      exact mirrors
  | some loader =>
      rw [there] at sameLoader
      simp only [World.closeLoader, there, sameLoader]
      exact mirrors.setLoader visible there { loader with cache := [], isClosed := true }

def LoadRequest.renamed (names : Renaming) : LoadRequest → LoadRequest
  | known type => known (type.renamed names)
  | unread path => unread path

theorem Mirrors.request
    (mirrors : full.Mirrors hidden names rest)
    {id : LoaderId}
    (visible : id ≠ hidden)
    (name : String) :
    rest.request id name = (full.request id name).map (LoadRequest.renamed names) := by
  rw [World.request, World.request, mirrors.loaders id visible]
  cases full.loader? id with
  | none => rfl
  | some loader =>
      dsimp only [Option.map_some, Loader.renamed]
      rw [lookup_map_renamed]
      split
      · rfl
      · cases loader.cache.lookup name with
        | some type => rfl
        | none =>
            dsimp only [Option.map_none]
            split
            · rfl
            · rfl

/-- A type that is produced in both worlds. -/
theorem Mirrors.addType
    (mirrors : full.Mirrors hidden names rest)
    (next : names.types full.typeCount = rest.typeCount)
    {id : LoaderId}
    (visible : id ≠ hidden)
    (path : String)
    (image : ModuleImage)
    (table : MethodTable) :
    (rest.addType id path image table).1 =
        (full.addType id path image table).1.renamed names ∧
      (full.addType id path image table).2.Mirrors hidden names
        (rest.addType id path image table).2 ∧
      (full.addType id path image table).2.output = full.output ∧
      (rest.addType id path image table).2.output = rest.output := by
  have sameLoader := mirrors.loaders id visible
  have sameType : (⟨rest.typeCount, id, path, image, table⟩ : LoadedType) =
      LoadedType.renamed names ⟨full.typeCount, id, path, image, table⟩ := by
    simp [LoadedType.renamed, next]
  cases there : full.loader? id with
  | none =>
      rw [there, Option.map_none] at sameLoader
      simp only [World.addType, there, sameLoader]
      exact ⟨sameType, mirrors, trivial, trivial⟩
  | some loader =>
      rw [there, Option.map_some] at sameLoader
      simp only [World.addType, there, sameLoader, sameType]
      obtain ⟨count, loaders, objects, distinct⟩ := mirrors.setLoader visible there
        { loader with
          cache := (image.name, ⟨full.typeCount, id, path, image, table⟩) :: loader.cache }
      exact ⟨trivial, ⟨count, loaders, objects, distinct⟩, rfl, rfl⟩

/-- A loader loads the same types, under other identities. -/
theorem Mirrors.load
    (mirrors : full.Mirrors hidden names rest)
    (next : names.types full.typeCount = rest.typeCount)
    (read : String → Except FileError Bytes)
    {id : LoaderId}
    (visible : id ≠ hidden)
    (name : String) :
    OutcomesMirror hidden names (Except.map (LoadedType.renamed names)) full rest
      (full.load read id name) (rest.load read id name) := by
  rw [World.load, World.load, mirrors.request visible name]
  cases full.request id name with
  | error error => exact mirrors.refused error
  | ok request =>
      cases request with
      | known type => exact mirrors.unchanged (Except.ok type)
      | unread path =>
          dsimp only [Except.map, LoadRequest.renamed, World.loadFrom]
          cases read path with
          | error cause => exact mirrors.refused _
          | ok content =>
              dsimp only
              cases readModule name content with
              | error error => exact mirrors.refused error
              | ok both =>
                  obtain ⟨image, table⟩ := both
                  obtain ⟨result, world, kept, keptRest⟩ :=
                    mirrors.addType next visible path image table
                  refine ⟨congrArg Except.ok result, world, [], ?_, ?_⟩
                  · rw [List.append_nil]
                    exact kept
                  · rw [List.append_nil]
                    exact keptRest

/-- An object that is made in both worlds. -/
theorem Mirrors.withObject
    (mirrors : full.Mirrors hidden names rest)
    (next : names.objects full.objects.length = rest.objects.length)
    (type : LoadedType)
    {machine other : Machine}
    (fields : other.fields = machine.fields.map (Value.renamed names)) :
    (full.withObject type machine).Mirrors hidden names
      (rest.withObject (type.renamed names) other) := by
  -- Every object that was there before has a number below the new one's.
  have below : ∀ number ∈ full.visible hidden, names.objects number < rest.objects.length := by
    rintro number ⟨object, there, visible⟩
    exact (List.getElem?_eq_some_iff.mp (mirrors.objects number object there visible)).1
  refine ⟨mirrors.count, mirrors.loaders, ?_, ?_⟩
  · intro number object there visible
    rcases object_of_withObject there with before | ⟨rfl, rfl⟩
    · have same := mirrors.objects number object before visible
      exact (List.getElem?_append_left (List.getElem?_eq_some_iff.mp same).1).trans same
    · rw [next, World.withObject, fields]
      exact List.getElem?_concat_length
  · rintro left ⟨object, there, visible⟩ right ⟨otherObject, thereOther, visibleOther⟩ same
    rcases object_of_withObject there with before | ⟨rfl, _⟩
    · rcases object_of_withObject thereOther with beforeOther | ⟨rfl, _⟩
      · exact mirrors.distinct ⟨object, before, visible⟩ ⟨otherObject, beforeOther, visibleOther⟩ same
      · have smaller := below left ⟨object, before, visible⟩
        omega
    · rcases object_of_withObject thereOther with beforeOther | ⟨rfl, _⟩
      · have smaller := below right ⟨otherObject, beforeOther, visibleOther⟩
        omega
      · rfl

/-- An object that is changed in both worlds. -/
theorem Mirrors.withRun
    (mirrors : full.Mirrors hidden names rest)
    {reference : Reference}
    {object : Object}
    (found : full.object? reference = some object)
    (visible : object.type.loader ≠ hidden)
    {machine other : Machine}
    (fields : other.fields = machine.fields.map (Value.renamed names)) :
    (full.withRun reference object machine).Mirrors hidden names
      (rest.withRun (reference.renamed names) (object.renamed names) other) := by
  have foundRest : rest.object? (reference.renamed names) = some (object.renamed names) :=
    mirrors.objects reference.object object found visible
  have sameVisible : (full.withRun reference object machine).visible hidden ⊆
      full.visible hidden := by
    rintro number ⟨changed, there, visibleChanged⟩
    rw [getElem?_withRun found] at there
    split at there
    · next same => exact ⟨object, same ▸ found, visible⟩
    · exact ⟨changed, there, visibleChanged⟩
  refine ⟨mirrors.count, mirrors.loaders, ?_, mirrors.distinct.mono sameVisible⟩
  intro number changed there visibleChanged
  rw [getElem?_withRun found] at there
  rw [getElem?_withRun foundRest]
  split at there
  · next same =>
    obtain rfl := Option.some.inj there
    rw [fields]
    exact if_pos (congrArg names.objects same)
  · next different =>
    have apart : names.objects reference.object ≠ names.objects number := by
      intro equal
      exact different
        (mirrors.distinct ⟨object, found, visible⟩ ⟨changed, there, visibleChanged⟩ equal)
    exact (if_neg apart).trans (mirrors.objects number changed there visibleChanged)

theorem Mirrors.construct
    (mirrors : full.Mirrors hidden names rest)
    (next : names.objects full.objects.length = rest.objects.length)
    {type : LoadedType}
    (visible : type.loader ≠ hidden)
    (arguments : List Value) :
    OutcomesMirror hidden names (Except.map (Reference.renamed names)) full rest
      (full.construct type arguments)
      (rest.construct (type.renamed names) (arguments.map (Value.renamed names))) := by
  have sameOpen : rest.isOpen (type.renamed names).loader = full.isOpen type.loader :=
    mirrors.isOpen visible
  have sameRequired : (type.renamed names).requireConstructorArguments
      (arguments.map (Value.renamed names)) = type.requireConstructorArguments arguments :=
    type.requireConstructorArguments_renamed arguments
  cases opened : full.isOpen type.loader with
  | false =>
      rw [World.construct, World.construct, sameOpen, opened]
      exact mirrors.refused _
  | true =>
      cases required : type.requireConstructorArguments arguments with
      | error error =>
          rw [World.construct, World.construct, sameOpen, opened, sameRequired, required]
          exact mirrors.refused error
      | ok _ =>
          obtain ⟨result, fields, printed⟩ :=
            constructorRun_mirrors names full rest type arguments
          rcases run : full.constructorRun type arguments with ⟨outcome, machine⟩
          rcases runRest : rest.constructorRun (type.renamed names)
            (arguments.map (Value.renamed names)) with ⟨outcomeRest, machineRest⟩
          rw [run, runRest] at result fields printed
          obtain rfl := result
          cases outcome with
          | error reason =>
              rw [construct_of_error opened required run,
                construct_of_error (sameOpen.trans opened) (sameRequired.trans required) runRest]
              exact ⟨rfl, mirrors.withOutput _ _, printed⟩
          | ok value =>
              rw [construct_of_ok opened required run,
                construct_of_ok (sameOpen.trans opened) (sameRequired.trans required) runRest]
              refine ⟨?_, mirrors.withObject next type fields, printed⟩
              rw [Except.map, Reference.renamed, next]
              rfl

theorem Mirrors.invoke
    (mirrors : full.Mirrors hidden names rest)
    {reference : Reference}
    {object : Object}
    (found : full.object? reference = some object)
    (visible : object.type.loader ≠ hidden)
    (name : String)
    (arguments : List Value) :
    OutcomesMirror hidden names (Except.map (Value.renamed names)) full rest
      (full.invoke reference name arguments)
      (rest.invoke (reference.renamed names) name (arguments.map (Value.renamed names))) := by
  have foundRest : rest.object? (reference.renamed names) = some (object.renamed names) :=
    mirrors.objects reference.object object found visible
  have sameOpen : rest.isOpen (object.renamed names).type.loader =
      full.isOpen object.type.loader :=
    mirrors.isOpen visible
  have sameMeant : (object.renamed names).type.dispatch name
      (arguments.map (Value.renamed names)) = object.type.dispatch name arguments :=
    object.type.dispatch_renamed name arguments
  cases opened : full.isOpen object.type.loader with
  | false =>
      simp only [World.invoke, found, foundRest, sameOpen, opened]
      exact mirrors.refused _
  | true =>
      cases meant : object.type.dispatch name arguments with
      | error error =>
          simp only [World.invoke, found, foundRest, sameOpen, opened, sameMeant, meant]
          exact mirrors.refused error
      | ok method =>
          obtain ⟨result, fields, printed⟩ :=
            methodRun_mirrors names full rest object method arguments
          rw [invoke_of_dispatch found opened meant,
            invoke_of_dispatch foundRest (sameOpen.trans opened) (sameMeant.trans meant)]
          refine ⟨?_, mirrors.withRun found visible fields, printed⟩
          rw [result]
          cases (full.methodRun object method arguments).1 with
          | error reason => rfl
          | ok value => rfl

theorem Mirrors.fieldValue
    (mirrors : full.Mirrors hidden names rest)
    {reference : Reference}
    {object : Object}
    (found : full.object? reference = some object)
    (visible : object.type.loader ≠ hidden)
    (name : String) :
    rest.fieldValue (reference.renamed names) name =
      (full.fieldValue reference name).map (Value.renamed names) := by
  have foundRest : rest.object? (reference.renamed names) = some (object.renamed names) :=
    mirrors.objects reference.object object found visible
  have sameOpen : rest.isOpen (object.renamed names).type.loader =
      full.isOpen object.type.loader :=
    mirrors.isOpen visible
  have sameField : ((object.renamed names).type.fieldIndex? name).bind
        (fun index => (object.renamed names).fields[index]?) =
      ((object.type.fieldIndex? name).bind fun index => object.fields[index]?).map
        (Value.renamed names) := by
    simp only [Object.renamed, List.getElem?_map, Option.map_bind]
    rfl
  simp only [World.fieldValue, found, foundRest, sameOpen, sameField]
  split
  · rfl
  · cases (object.type.fieldIndex? name).bind fun index => object.fields[index]? with
    | none => rfl
    | some value => rfl

end World
end LateBinding
