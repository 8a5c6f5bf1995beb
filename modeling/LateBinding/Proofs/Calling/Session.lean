import LateBinding.Proofs.Calling.Call

/-!
# Runs of a program

A program opens and closes loaders, loads types from files that may change at any time, constructs
objects and calls their methods.  What every produced type and every object satisfies is shown step by
step: for the types where a file is read, for the objects where a constructor or a method runs.
-/

namespace LateBinding

/-- A running program: its world, and the types that loading has given it so far. -/
structure Session where
  /-- The world. -/
  world : World
  /-- The loaded types in the order of the loadings. -/
  types : List LoadedType

/-- A step of a program. -/
inductive Action where
  | openLoader (directory extension : String)
  | closeLoader (loader : LoaderId)
  /-- Loads a name while the files have the contents that are read. -/
  | load (read : String → Except FileError Bytes) (loader : LoaderId) (name : String)
  /-- Constructs an object of the type that the program was given at a position. -/
  | construct (position : Nat) (arguments : List Value)
  | invoke (reference : Reference) (method : String) (arguments : List Value)

namespace Session

def start : Session :=
  ⟨World.empty, []⟩

def perform (session : Session) : Action → Session
  | .openLoader directory ending =>
      { session with world := (session.world.openLoader directory ending).2 }
  | .closeLoader loader => { session with world := session.world.closeLoader loader }
  | .load read loader name =>
      match session.world.load read loader name with
      | (.ok type, after) => ⟨after, session.types ++ [type]⟩
      | (.error _, after) => { session with world := after }
  | .construct position arguments =>
      match session.types[position]? with
      | none => session
      | some type => { session with world := (session.world.construct type arguments).2 }
  | .invoke reference method arguments =>
      { session with world := (session.world.invoke reference method arguments).2 }

/-- The session after the steps of a program. -/
def run (actions : List Action) : Session :=
  actions.foldl perform start

end Session

/-! ## Properties of all types and objects -/

variable {ofType : LoadedType → Prop} {ofObject : Object → Prop}

/-- All types that the loaders hold and all objects satisfy a property. -/
structure World.Satisfies
    (ofType : LoadedType → Prop)
    (ofObject : Object → Prop)
    (world : World) : Prop where
  /-- The types that the loaders hold. -/
  held : ∀ loader ∈ world.loaders, ∀ entry ∈ loader.cache, ofType entry.2
  /-- The objects. -/
  objects : ∀ object ∈ world.objects, ofObject object

/-- All types and objects of a session satisfy a property. -/
structure Session.Satisfies
    (ofType : LoadedType → Prop)
    (ofObject : Object → Prop)
    (session : Session) : Prop where
  /-- The types and objects of the world. -/
  world : session.world.Satisfies ofType ofObject
  /-- The types that the program was given. -/
  types : ∀ type ∈ session.types, ofType type

/-- The types that a loading can produce satisfy a property. -/
def Action.Yields (ofType : LoadedType → Prop) : Action → Prop
  | load read _ _ => ∀ path name content image table,
      read path = .ok content → World.readModule name content = .ok (image, table) →
        ∀ identity loader, ofType ⟨identity, loader, path, image, table⟩
  | _ => True

/-- Running a constructor or a method keeps a property of objects. -/
structure KeptByRuns (ofType : LoadedType → Prop) (ofObject : Object → Prop) : Prop where
  /-- A constructor that runs to its end makes an object with the property. -/
  made : ∀ (world : World) type arguments value machine, ofType type →
    type.requireConstructorArguments arguments = .ok () →
    world.constructorRun type arguments = (.ok value, machine) → ofObject ⟨type, machine.fields⟩
  /-- A method leaves its object with the property, also when it fails. -/
  changed : ∀ (world : World) object method name arguments, ofObject object →
    object.type.dispatch name arguments = .ok method →
    ofObject ⟨object.type, (world.methodRun object method arguments).2.fields⟩

namespace World

variable {world : World}

theorem loader_mem
    {id : LoaderId}
    {loader : Loader}
    (found : world.loader? id = some loader) :
    loader ∈ world.loaders := by
  unfold loader? at found
  split at found
  · simp at found
  · exact List.mem_of_getElem? found

theorem cached_mem
    {loader : Loader}
    {name : String}
    {type : LoadedType}
    (cached : loader.cache.lookup name = some type) :
    (name, type) ∈ loader.cache := by
  obtain ⟨before, after, parts, _⟩ := List.lookup_eq_some_iff.mp cached
  rw [parts]
  exact List.mem_append_right before List.mem_cons_self

theorem object_mem
    {reference : Reference}
    {object : Object}
    (found : world.object? reference = some object) :
    object ∈ world.objects :=
  List.mem_of_getElem? found

/-- What a loader is known to have produced is in its cache. -/
theorem cached_of_request
    {id : LoaderId}
    {name : String}
    {type : LoadedType}
    (requested : world.request id name = .ok (.known type)) :
    ∃ loader, world.loader? id = some loader ∧ loader.cache.lookup name = some type := by
  unfold request at requested
  split at requested
  · nomatch requested
  · next loader found =>
    split at requested
    · nomatch requested
    · split at requested
      · next produced cached =>
        obtain rfl := LoadRequest.known.inj (Except.ok.inj requested)
        exact ⟨loader, found, cached⟩
      · dsimp only at requested
        split at requested
        · nomatch Except.ok.inj requested
        · nomatch requested

theorem addType_fst
    (world : World)
    (id : LoaderId)
    (path : String)
    (image : ModuleImage)
    (table : MethodTable) :
    (world.addType id path image table).1 = ⟨world.typeCount, id, path, image, table⟩ := by
  unfold addType
  dsimp only
  split <;> rfl

namespace Satisfies

theorem openLoader
    (satisfies : world.Satisfies ofType ofObject)
    (directory ending : String) :
    (world.openLoader directory ending).2.Satisfies ofType ofObject where
  held := by
    intro loader present entry cached
    rcases List.mem_append.mp present with before | new
    · exact satisfies.held loader before entry cached
    · obtain rfl := List.mem_singleton.mp new
      simp at cached
  objects := satisfies.objects

theorem setLoader
    (satisfies : world.Satisfies ofType ofObject)
    (id : LoaderId)
    (loader : Loader)
    (held : ∀ entry ∈ loader.cache, ofType entry.2) :
    (world.setLoader id loader).Satisfies ofType ofObject where
  held := by
    intro other present entry cached
    rcases List.mem_or_eq_of_mem_set present with before | rfl
    · exact satisfies.held other before entry cached
    · exact held entry cached
  objects := satisfies.objects

theorem closeLoader
    (satisfies : world.Satisfies ofType ofObject)
    (id : LoaderId) :
    (world.closeLoader id).Satisfies ofType ofObject := by
  unfold World.closeLoader
  split
  · exact satisfies
  · exact satisfies.setLoader id _ (by simp)

theorem addType
    (satisfies : world.Satisfies ofType ofObject)
    {id : LoaderId}
    {path : String}
    {image : ModuleImage}
    {table : MethodTable}
    (produced : ofType ⟨world.typeCount, id, path, image, table⟩) :
    (world.addType id path image table).2.Satisfies ofType ofObject := by
  unfold World.addType
  dsimp only
  split
  · exact satisfies
  · next loader found =>
    have held : ∀ entry ∈ (image.name, LoadedType.mk world.typeCount id path image table) ::
        loader.cache, ofType entry.2 :=
      List.forall_mem_cons.mpr ⟨produced, satisfies.held loader (loader_mem found)⟩
    have set := satisfies.setLoader id { loader with cache := _ } held
    exact ⟨set.held, set.objects⟩

/-- Loading gives a type with the property, from the loader or from a file. -/
theorem load
    (satisfies : world.Satisfies ofType ofObject)
    {read : String → Except FileError Bytes}
    {id : LoaderId}
    {name : String}
    (yields : (Action.load read id name).Yields ofType) :
    (world.load read id name).2.Satisfies ofType ofObject ∧
      ∀ type, (world.load read id name).1 = .ok type → ofType type := by
  unfold World.load
  split
  · exact ⟨satisfies, fun type impossible => nomatch impossible⟩
  · next known requested =>
    refine ⟨satisfies, ?_⟩
    intro type same
    obtain rfl := Except.ok.inj same
    obtain ⟨loader, found, cached⟩ := cached_of_request requested
    exact satisfies.held loader (loader_mem found) _ (cached_mem cached)
  · next path requested =>
    unfold loadFrom
    split
    · exact ⟨satisfies, fun type impossible => nomatch impossible⟩
    · next content readable =>
      split
      · exact ⟨satisfies, fun type impossible => nomatch impossible⟩
      · next image table accepted =>
        have produced := yields path name content image table readable accepted world.typeCount id
        refine ⟨satisfies.addType produced, ?_⟩
        intro type same
        obtain rfl := Except.ok.inj same
        rw [addType_fst]
        exact produced

theorem construct
    (satisfies : world.Satisfies ofType ofObject)
    (kept : KeptByRuns ofType ofObject)
    {type : LoadedType}
    (has : ofType type)
    (arguments : List Value) :
    (world.construct type arguments).2.Satisfies ofType ofObject := by
  rcases world.construct_cases type arguments with ⟨error, _, refused⟩ | ⟨opened, required⟩
  · rw [refused]
    exact satisfies
  · rcases run : world.constructorRun type arguments with ⟨result, machine⟩
    cases result with
    | error reason =>
        rw [construct_of_error opened required run]
        exact ⟨satisfies.held, satisfies.objects⟩
    | ok value =>
        rw [construct_of_ok opened required run]
        refine ⟨satisfies.held, ?_⟩
        intro object present
        rcases List.mem_append.mp present with before | new
        · exact satisfies.objects object before
        · obtain rfl := List.mem_singleton.mp new
          exact kept.made world type arguments value machine has required run

theorem invoke
    (satisfies : world.Satisfies ofType ofObject)
    (kept : KeptByRuns ofType ofObject)
    (reference : Reference)
    (name : String)
    (arguments : List Value) :
    (world.invoke reference name arguments).2.Satisfies ofType ofObject := by
  rcases world.invoke_cases reference name arguments with
    ⟨error, _, refused⟩ | ⟨object, method, found, opened, meant⟩
  · rw [refused]
    exact satisfies
  · rw [invoke_of_dispatch found opened meant]
    refine ⟨satisfies.held, ?_⟩
    intro other present
    rcases List.mem_or_eq_of_mem_set present with before | rfl
    · exact satisfies.objects other before
    · exact kept.changed world object method name arguments
        (satisfies.objects object (object_mem found)) meant

end Satisfies
end World

namespace Session

theorem start_satisfies : start.Satisfies ofType ofObject := by
  constructor
  · constructor
    · intro loader impossible
      simp [start, World.empty] at impossible
    · intro object impossible
      simp [start, World.empty] at impossible
  · intro type impossible
    simp [start] at impossible

/-- Each step of a program keeps what all types and objects satisfy. -/
theorem Satisfies.perform
    {session : Session}
    (satisfies : session.Satisfies ofType ofObject)
    (kept : KeptByRuns ofType ofObject)
    {action : Action}
    (yields : action.Yields ofType) :
    (session.perform action).Satisfies ofType ofObject := by
  cases action with
  | openLoader directory ending =>
      exact ⟨satisfies.world.openLoader directory ending, satisfies.types⟩
  | closeLoader loader => exact ⟨satisfies.world.closeLoader loader, satisfies.types⟩
  | load read loader name =>
      obtain ⟨after, produced⟩ := satisfies.world.load yields
      rcases loaded : session.world.load read loader name with ⟨result, world⟩
      rw [loaded] at after produced
      rw [Session.perform, loaded]
      cases result with
      | error error => exact ⟨after, satisfies.types⟩
      | ok type =>
          refine ⟨after, ?_⟩
          intro other present
          rcases List.mem_append.mp present with before | new
          · exact satisfies.types other before
          · obtain rfl := List.mem_singleton.mp new
            exact produced other rfl
  | construct position arguments =>
      rw [Session.perform]
      split
      · exact satisfies
      · next type given =>
        have has := satisfies.types type (List.mem_of_getElem? given)
        exact ⟨satisfies.world.construct kept has arguments, satisfies.types⟩
  | invoke reference method arguments =>
      exact ⟨satisfies.world.invoke kept reference method arguments, satisfies.types⟩

/-- What loading, constructing and calling keep holds of all types and objects of a program. -/
theorem run_satisfies
    (kept : KeptByRuns ofType ofObject)
    {actions : List Action}
    (yields : ∀ action ∈ actions, action.Yields ofType) :
    (run actions).Satisfies ofType ofObject := by
  apply List.foldlRecOn actions Session.perform start_satisfies
  intro session satisfies action present
  exact satisfies.perform kept (yields action present)

end Session
end LateBinding
