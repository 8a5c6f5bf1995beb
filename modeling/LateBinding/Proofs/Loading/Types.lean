import LateBinding.Proofs.Calling.Session
import LateBinding.Proofs.Loading.Load
import Mathlib.Data.Set.Insert

/-!
# The types that loaders have produced

A loader keeps each type that it produces until it is closed, and gives it again when its name is loaded.
So it never produces two types of one name.  Every type has an identity of its own, and so no two loaders
share one.
-/

namespace LateBinding
namespace World

/-- What holds of all types that have been produced so far, and of the loaders that hold them. -/
structure Knows (world : World) (types : Set LoadedType) : Prop where
  /-- What a loader holds is what it has produced. -/
  held : ∀ id loader, world.loader? id = some loader → ∀ entry ∈ loader.cache,
    entry.2 ∈ types ∧ entry.2.loader = id ∧ entry.2.name = entry.1
  /-- An open loader finds what it has produced by its name. -/
  remembered : ∀ id loader, world.loader? id = some loader → loader.isClosed = false →
    ∀ type ∈ types, type.loader = id → loader.cache.lookup type.name = some type
  /-- A type comes from a loader that has been opened. -/
  opened : ∀ type ∈ types, (world.loader? type.loader).isSome = true
  /-- Identities are given in order. -/
  counted : ∀ type ∈ types, type.identity < world.typeCount
  /-- Different types have different identities. -/
  identified : ∀ type ∈ types, ∀ other ∈ types, type.identity = other.identity → type = other
  /-- A loader produces one type under a name. -/
  unique : ∀ type ∈ types, ∀ other ∈ types, type.loader = other.loader → type.name = other.name →
    type = other

variable {world : World} {types : Set LoadedType}

theorem knows_empty : empty.Knows ∅ where
  held id loader found := by simp [loader?, empty] at found
  remembered id loader found := by simp [loader?, empty] at found
  opened type impossible := impossible.elim
  counted type impossible := impossible.elim
  identified type impossible := impossible.elim
  unique type impossible := impossible.elim

/-- All that matters of a world are its loaders and the number of types. -/
theorem Knows.congr
    (knows : world.Knows types)
    {after : World}
    (loaders : after.loaders = world.loaders)
    (typeCount : after.typeCount = world.typeCount) :
    after.Knows types := by
  have same : ∀ id, after.loader? id = world.loader? id := by
    intro id
    rw [loader?, loader?, loaders]
  constructor
  · intro id loader found
    exact knows.held id loader ((same id).symm.trans found)
  · intro id loader found
    exact knows.remembered id loader ((same id).symm.trans found)
  · intro type present
    rw [same]
    exact knows.opened type present
  · intro type present
    rw [typeCount]
    exact knows.counted type present
  · exact knows.identified
  · exact knows.unique

theorem Knows.openLoader
    (knows : world.Knows types)
    (directory ending : String) :
    (world.openLoader directory ending).2.Knows types := by
  -- The new loader has produced nothing, since its identity has never been given.
  have fresh : ∀ type ∈ types, type.loader ≠ (world.openLoader directory ending).1 := by
    intro type present same
    have opened := knows.opened type present
    rw [same, loader?_fst_openLoader] at opened
    nomatch opened
  constructor
  · intro id loader found
    by_cases new : id = (world.openLoader directory ending).1
    · subst new
      rw [loader?_openLoader] at found
      obtain rfl := Option.some.inj found
      simp
    · rw [loader?_openLoader_of_ne world directory ending new] at found
      exact knows.held id loader found
  · intro id loader found opened type present same
    have old : id ≠ (world.openLoader directory ending).1 := same ▸ fresh type present
    rw [loader?_openLoader_of_ne world directory ending old] at found
    exact knows.remembered id loader found opened type present same
  · intro type present
    rw [loader?_openLoader_of_ne world directory ending (fresh type present)]
    exact knows.opened type present
  · exact knows.counted
  · exact knows.identified
  · exact knows.unique

theorem Knows.closeLoader
    (knows : world.Knows types)
    (closing : LoaderId) :
    (world.closeLoader closing).Knows types := by
  constructor
  · intro id loader found
    rw [loader?_closeLoader] at found
    split at found
    · obtain ⟨_, _, rfl⟩ := Option.map_eq_some_iff.mp found
      simp
    · exact knows.held id loader found
  · intro id loader found opened
    rw [loader?_closeLoader] at found
    split at found
    · obtain ⟨_, _, rfl⟩ := Option.map_eq_some_iff.mp found
      nomatch opened
    · exact knows.remembered id loader found opened
  · intro type present
    rw [loader?_closeLoader]
    split
    · next same =>
      rw [Option.isSome_map, ← same]
      exact knows.opened type present
    · exact knows.opened type present
  · intro type present
    rw [typeCount_closeLoader]
    exact knows.counted type present
  · exact knows.identified
  · exact knows.unique

/-- A type that is produced by a loader that has not produced one of its name differs from all others. -/
theorem Knows.withType
    (knows : world.Knows types)
    {id : LoaderId}
    {loader : Loader}
    (found : world.loader? id = some loader)
    (opened : loader.isClosed = false)
    {type : LoadedType}
    (unknown : loader.cache.lookup type.name = none)
    (ofLoader : type.loader = id)
    (new : type.identity = world.typeCount) :
    (world.withType id loader type).Knows (insert type types) := by
  have otherName : ∀ other ∈ types, other.loader = type.loader → other.name ≠ type.name := by
    intro other present sameLoader sameName
    have known := knows.remembered id loader found opened other present (sameLoader.trans ofLoader)
    rw [sameName, unknown] at known
    nomatch known
  have otherIdentity : ∀ other ∈ types, other.identity ≠ type.identity := by
    intro other present
    rw [new]
    exact Nat.ne_of_lt (knows.counted other present)
  constructor
  · intro other changed there entry present
    rw [loader?_withType found] at there
    split at there
    · next same =>
      obtain rfl := Option.some.inj there
      rcases List.mem_cons.mp present with rfl | before
      · exact ⟨Set.mem_insert type types, ofLoader.trans same.symm, rfl⟩
      · obtain ⟨known, rest⟩ := knows.held id loader found entry before
        exact ⟨Set.mem_insert_of_mem type known, same ▸ rest⟩
    · obtain ⟨known, rest⟩ := knows.held other changed there entry present
      exact ⟨Set.mem_insert_of_mem type known, rest⟩
  · intro other changed there stillOpen produced present producedBy
    rw [loader?_withType found] at there
    split at there
    · next same =>
      obtain rfl := Option.some.inj there
      rcases Set.mem_insert_iff.mp present with rfl | before
      · exact List.lookup_cons_self
      · have sameLoader : produced.loader = type.loader :=
          producedBy.trans (same.trans ofLoader.symm)
        have different := beq_false_of_ne (otherName produced before sameLoader)
        rw [List.lookup_cons, different]
        exact knows.remembered id loader found opened produced before (producedBy.trans same)
    · next different =>
      rcases Set.mem_insert_iff.mp present with rfl | before
      · exact absurd (producedBy.symm.trans ofLoader) different
      · exact knows.remembered other changed there stillOpen produced before producedBy
  · intro produced present
    rw [loader?_withType found]
    split
    · rfl
    · next different =>
      rcases Set.mem_insert_iff.mp present with rfl | before
      · exact absurd ofLoader different
      · exact knows.opened produced before
  · intro produced present
    rcases Set.mem_insert_iff.mp present with rfl | before
    · rw [new]
      exact Nat.lt_succ_self _
    · exact Nat.lt_succ_of_lt (knows.counted produced before)
  · intro left presentLeft right presentRight same
    rcases Set.mem_insert_iff.mp presentLeft with rfl | leftBefore
    · rcases Set.mem_insert_iff.mp presentRight with rfl | rightBefore
      · rfl
      · exact absurd same.symm (otherIdentity right rightBefore)
    · rcases Set.mem_insert_iff.mp presentRight with rfl | rightBefore
      · exact absurd same (otherIdentity left leftBefore)
      · exact knows.identified left leftBefore right rightBefore same
  · intro left presentLeft right presentRight sameLoader sameName
    rcases Set.mem_insert_iff.mp presentLeft with rfl | leftBefore
    · rcases Set.mem_insert_iff.mp presentRight with rfl | rightBefore
      · rfl
      · exact absurd sameName.symm (otherName right rightBefore sameLoader.symm)
    · rcases Set.mem_insert_iff.mp presentRight with rfl | rightBefore
      · exact absurd sameName (otherName left leftBefore sameLoader)
      · exact knows.unique left leftBefore right rightBefore sameLoader sameName

/-- A type that loading gives has the name that was loaded, and comes from the loader. -/
theorem Knows.load
    (knows : world.Knows types)
    {read : String → Except FileError Bytes}
    {id : LoaderId}
    {name : String} :
    (∃ error, world.load read id name = (.error error, world)) ∨
    ∃ type after, world.load read id name = (.ok type, after) ∧ type.loader = id ∧
      type.name = name ∧ after.Knows (insert type types) := by
  rcases world.load_cases read id name with failed | ⟨loader, type, there, opened, known, loads⟩ |
    ⟨loader, image, table, finds⟩
  · exact .inl failed
  · obtain ⟨present, fromLoader, named⟩ := knows.held id loader there _ (cached_mem known)
    refine .inr ⟨type, world, loads, fromLoader, named, ?_⟩
    rw [Set.insert_eq_of_mem present]
    exact knows
  · obtain ⟨content, readable, accepted⟩ := finds.accepted
    have named : image.name = name := name_of_readModule accepted
    refine .inr ⟨_, _, finds.load, rfl, named, ?_⟩
    apply knows.withType finds.there finds.opened _ rfl rfl
    change loader.cache.lookup image.name = none
    rw [named]
    exact finds.unknown

end World
end LateBinding
