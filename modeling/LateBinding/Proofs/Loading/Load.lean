import LateBinding.Loading.World
import LateBinding.Proofs.Loading.FirstLoad
import LateBinding.Proofs.Outcome

/-!
# What loading can come to

Loading a name fails and changes nothing, or gives the type that the loader has produced before, or reads
the module of the name and produces a new type.  Each loader changes only when it is closed or produces a
type, and a closed loader stays closed.
-/

namespace LateBinding
namespace World

variable {world : World}

/-! ## The loader of an identity -/

theorem loader?_eq_some_iff {id : LoaderId} {loader : Loader} :
    world.loader? id = some loader ↔
      id.number ≠ 0 ∧ world.loaders[id.number - 1]? = some loader := by
  unfold loader?
  split
  · next zero => simp [zero]
  · next positive => simp [positive]

/-- Identities that are not zero differ in the position of the loader. -/
theorem eq_of_number_sub_one_eq
    {id other : LoaderId}
    (positive : id.number ≠ 0)
    (otherPositive : other.number ≠ 0)
    (same : id.number - 1 = other.number - 1) :
    id = other := by
  obtain ⟨number⟩ := id
  obtain ⟨otherNumber⟩ := other
  have equal : number = otherNumber := by
    dsimp only at positive otherPositive same
    omega
  rw [equal]

theorem loader?_setLoader
    {id : LoaderId}
    {loader : Loader}
    (found : world.loader? id = some loader)
    (changed : Loader)
    (other : LoaderId) :
    (world.setLoader id changed).loader? other =
      if other = id then some changed else world.loader? other := by
  obtain ⟨positive, there⟩ := loader?_eq_some_iff.mp found
  have inside := (List.getElem?_eq_some_iff.mp there).1
  by_cases same : other = id
  · subst same
    rw [if_pos rfl, loader?_eq_some_iff]
    exact ⟨positive, List.getElem?_set_self inside⟩
  · rw [if_neg same, loader?, loader?]
    by_cases zero : other.number = 0
    · rw [if_pos zero, if_pos zero]
    · rw [if_neg zero, if_neg zero, setLoader]
      apply List.getElem?_set_ne
      intro equal
      exact same (eq_of_number_sub_one_eq zero positive equal.symm)

theorem loader?_openLoader_of_ne
    (world : World)
    (directory ending : String)
    {id : LoaderId}
    (old : id ≠ (world.openLoader directory ending).1) :
    (world.openLoader directory ending).2.loader? id = world.loader? id := by
  rw [loader?, loader?]
  by_cases zero : id.number = 0
  · rw [if_pos zero, if_pos zero]
  · rw [if_neg zero, if_neg zero, openLoader]
    have different : id.number - 1 ≠ world.loaders.length := by
      intro equal
      apply old
      apply eq_of_number_sub_one_eq zero (Nat.succ_ne_zero _)
      exact equal
    rcases Nat.lt_or_ge (id.number - 1) world.loaders.length with before | behind
    · exact List.getElem?_append_left before
    · rw [List.getElem?_eq_none behind, List.getElem?_eq_none]
      rw [List.length_append, List.length_singleton]
      omega

/-- A loader that is opened is a new one. -/
theorem loader?_fst_openLoader (world : World) (directory ending : String) :
    world.loader? (world.openLoader directory ending).1 = none := by
  rw [loader?, openLoader, if_neg (Nat.succ_ne_zero _)]
  exact List.getElem?_eq_none (Nat.le_refl _)

theorem loader?_closeLoader (world : World) (id other : LoaderId) :
    (world.closeLoader id).loader? other =
      if other = id then
        (world.loader? id).map fun loader => { loader with cache := [], isClosed := true }
      else world.loader? other := by
  cases found : world.loader? id with
  | none =>
      have unchanged : world.closeLoader id = world := by simp only [closeLoader, found]
      rw [unchanged]
      by_cases same : other = id
      · rw [if_pos same, same, found]
        rfl
      · rw [if_neg same]
  | some loader =>
      rw [closeLoader, found]
      exact loader?_setLoader found _ other

@[simp] theorem objects_closeLoader (world : World) (id : LoaderId) :
    (world.closeLoader id).objects = world.objects := by
  unfold closeLoader
  split <;> rfl

@[simp] theorem output_closeLoader (world : World) (id : LoaderId) :
    (world.closeLoader id).output = world.output := by
  unfold closeLoader
  split <;> rfl

@[simp] theorem typeCount_closeLoader (world : World) (id : LoaderId) :
    (world.closeLoader id).typeCount = world.typeCount := by
  unfold closeLoader
  split <;> rfl

/-! ## Loading -/

/-- The world in which a loader has produced a type. -/
def withType (world : World) (id : LoaderId) (loader : Loader) (type : LoadedType) : World :=
  { world.setLoader id { loader with cache := (type.name, type) :: loader.cache } with
    typeCount := world.typeCount + 1 }

theorem loader?_withType
    {id : LoaderId}
    {loader : Loader}
    (found : world.loader? id = some loader)
    (type : LoadedType)
    (other : LoaderId) :
    (world.withType id loader type).loader? other =
      if other = id then some { loader with cache := (type.name, type) :: loader.cache }
      else world.loader? other :=
  loader?_setLoader found _ other

/-- A loader that can produce the type of a name has the module of the name, and has not read it yet. -/
structure Finds
    (world : World)
    (read : String → Except FileError Bytes)
    (id : LoaderId)
    (name : String)
    (loader : Loader)
    (image : ModuleImage)
    (table : MethodTable) : Prop where
  there : world.loader? id = some loader
  opened : loader.isClosed = false
  unknown : loader.cache.lookup name = none
  qualified : isQualifiedName name = true
  accepted : ∃ content, read (modulePath loader.directory name loader.extension) = .ok content ∧
    readModule name content = .ok (image, table)

theorem name_of_readModule
    {name : String}
    {content : Bytes}
    {image : ModuleImage}
    {table : MethodTable}
    (accepted : readModule name content = .ok (image, table)) :
    image.name = name :=
  (readModule_eq_ok_iff.mp accepted).2.1

variable {read : String → Except FileError Bytes} {id : LoaderId} {name : String}

theorem load_of_cached
    {loader : Loader}
    {type : LoadedType}
    (there : world.loader? id = some loader)
    (opened : loader.isClosed = false)
    (known : loader.cache.lookup name = some type) :
    world.load read id name = (.ok type, world) := by
  simp [load, request, there, opened, known]

theorem load_of_closed
    {loader : Loader}
    (there : world.loader? id = some loader)
    (closed : loader.isClosed = true) :
    world.load read id name = (.error (.closed id.number), world) := by
  simp [load, request, there, closed]

theorem Finds.load
    {loader : Loader}
    {image : ModuleImage}
    {table : MethodTable}
    (finds : world.Finds read id name loader image table) :
    world.load read id name =
      (.ok ⟨world.typeCount, id, modulePath loader.directory name loader.extension, image, table⟩,
        world.withType id loader
          ⟨world.typeCount, id, modulePath loader.directory name loader.extension, image, table⟩) := by
  obtain ⟨content, readable, accepted⟩ := finds.accepted
  simp [World.load, request, finds.there, finds.opened, finds.unknown, finds.qualified, loadFrom,
    readable, accepted, addType, withType, LoadedType.name]

/-- All that loading can come to. -/
theorem load_cases
    (world : World)
    (read : String → Except FileError Bytes)
    (id : LoaderId)
    (name : String) :
    (∃ error, world.load read id name = (.error error, world)) ∨
    (∃ loader type, world.loader? id = some loader ∧ loader.isClosed = false ∧
      loader.cache.lookup name = some type ∧ world.load read id name = (.ok type, world)) ∨
    ∃ loader image table, world.Finds read id name loader image table := by
  cases there : world.loader? id with
  | none => exact .inl ⟨.closed id.number, by simp only [load, request, there]⟩
  | some loader =>
      cases opened : loader.isClosed with
      | true => exact .inl ⟨_, load_of_closed there opened⟩
      | false =>
          cases known : loader.cache.lookup name with
          | some type =>
              exact .inr (.inl ⟨loader, type, rfl, opened, known, load_of_cached there opened known⟩)
          | none =>
              cases qualified : isQualifiedName name with
              | false =>
                  exact .inl ⟨_, by simp [load, request, there, opened, known, qualified]; rfl⟩
              | true =>
                  -- The module is read now: the file may be missing or be no module of the name.
                  have loads : world.load read id name =
                      world.loadFrom id name (modulePath loader.directory name loader.extension)
                        (read (modulePath loader.directory name loader.extension)) := by
                    simp [load, request, there, opened, known, qualified]
                  cases readable : read (modulePath loader.directory name loader.extension) with
                  | error cause => exact .inl ⟨_, by rw [loads, readable, loadFrom]⟩
                  | ok content =>
                      cases accepted : readModule name content with
                      | error error =>
                          refine .inl ⟨error, ?_⟩
                          rw [loads, readable, loadFrom]
                          simp only [accepted]
                      | ok both =>
                          obtain ⟨image, table⟩ := both
                          exact .inr (.inr ⟨loader, image, table, there, opened, known, qualified,
                            content, readable, accepted⟩)

end World
end LateBinding
