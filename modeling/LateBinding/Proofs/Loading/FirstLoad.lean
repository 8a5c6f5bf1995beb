import LateBinding.Loading.World
import LateBinding.Proofs.Loading.MethodTable
import LateBinding.Proofs.Outcome

/-!
# The first load of a name

A loader that has just been opened reads the module of a name from its directory, whatever other loaders
have produced.  Neither opening a loader nor loading a type changes an object or prints a line.
-/

namespace LateBinding
namespace World

variable {directory ending name : String}

@[simp] theorem loader?_openLoader (world : World) (directory ending : String) :
    (world.openLoader directory ending).2.loader? (world.openLoader directory ending).1 =
      some ⟨directory, ending, [], false⟩ := by
  simp [openLoader, loader?]

/-- A file is accepted when it decodes to a module of the name that has a table. -/
theorem readModule_eq_ok_iff
    {content : Bytes}
    {image : ModuleImage}
    {table : MethodTable} :
    readModule name content = .ok (image, table) ↔
      ModuleImage.decode content = .ok image ∧ image.name = name ∧
        MethodTable.ofImage image = .ok table := by
  unfold readModule
  rw [Outcome.bind_eq_ok_iff]
  constructor
  · rintro ⟨found, decoded, accepted⟩
    split at accepted
    · nomatch accepted
    · next named =>
      obtain ⟨built, complete, same⟩ := Outcome.bind_eq_ok_iff.mp accepted
      obtain ⟨rfl, rfl⟩ := Prod.mk.inj (Except.ok.inj same)
      exact ⟨Outcome.mapError_eq_ok_iff.mp decoded, not_not.mp named,
        Outcome.mapError_eq_ok_iff.mp complete⟩
  · rintro ⟨decoded, rfl, complete⟩
    refine ⟨image, Outcome.mapError_eq_ok_iff.mpr decoded, ?_⟩
    rw [if_neg (not_not.mpr rfl)]
    exact Outcome.bind_eq_ok_iff.mpr ⟨table, Outcome.mapError_eq_ok_iff.mpr complete, rfl⟩

theorem exists_readModule
    {content : Bytes}
    {image : ModuleImage}
    (decoded : ModuleImage.decode content = .ok image)
    (bound : ∀ member ∈ image.members, member.code.IsBound image.strings)
    (distinct : (image.methods.map Member.key).Nodup) :
    ∃ table, readModule image.name content = .ok (image, table) := by
  obtain ⟨table, complete⟩ := MethodTable.exists_ofImage bound distinct
  exact ⟨table, readModule_eq_ok_iff.mpr ⟨decoded, rfl, complete⟩⟩

/-- A fresh loader loads a name whose file holds a module that is accepted. -/
theorem load_openLoader
    (world : World)
    (qualified : isQualifiedName name = true)
    {read : String → Except FileError Bytes}
    {content : Bytes}
    (readable : read (modulePath directory name ending) = .ok content)
    {image : ModuleImage}
    {table : MethodTable}
    (accepted : readModule name content = .ok (image, table)) :
    ∃ identity loaded,
      (world.openLoader directory ending).2.load read (world.openLoader directory ending).1 name =
        (.ok ⟨identity, (world.openLoader directory ending).1,
          modulePath directory name ending, image, table⟩, loaded) ∧
      loaded.isOpen (world.openLoader directory ending).1 = true ∧
      loaded.output = world.output := by
  let id := (world.openLoader directory ending).1
  let opened := (world.openLoader directory ending).2
  have found : opened.loader? id = some ⟨directory, ending, [], false⟩ :=
    loader?_openLoader world directory ending
  have requested : opened.request id name = .ok (.unread (modulePath directory name ending)) := by
    simp only [request, found, List.lookup_nil, qualified]
    rfl
  let type : LoadedType :=
    ⟨opened.typeCount, id, modulePath directory name ending, image, table⟩
  let loaded : World :=
    { opened.setLoader id ⟨directory, ending, [(image.name, type)], false⟩ with
      typeCount := opened.typeCount + 1 }
  have loads : opened.load read id name = (.ok type, loaded) := by
    simp only [load, requested, loadFrom, readable, accepted, addType, found]
    rfl
  refine ⟨_, _, loads, ?_, rfl⟩
  simp [loaded, isOpen, loader?, setLoader, id, opened, openLoader]

end World
end LateBinding
