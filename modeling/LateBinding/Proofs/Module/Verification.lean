import LateBinding.Proofs.Module.StringPool
import LateBinding.Module.Image

/-!
# What verified images satisfy

The check of an image, said without the order in which it looks at members and instructions: every
code ends with a return, and every instruction refers to a field, a parameter or a text that is there.
-/

namespace LateBinding

/-- The field, the parameter or the text that an instruction refers to is there. -/
def Instruction.RefersInside
    (fieldCount parameterCount : Nat)
    (strings : StringPool) :
    Instruction → Prop
  | loadField index => index.toNat < fieldCount
  | storeField index => index.toNat < fieldCount
  | loadParameter index => index.toNat < parameterCount
  | pushString index => (strings.get? index).isSome
  | callExternal index _ => (strings.get? index).isSome
  | _ => True

/-- Code that ends with a return and refers only to what is there. -/
structure Code.IsSound
    (fieldCount parameterCount : Nat)
    (strings : StringPool)
    (code : Code) : Prop where
  /-- The last instruction returns. -/
  ends : code.getLast?.any Instruction.isReturn = true
  /-- Every instruction refers to something that is there. -/
  refers : ∀ instruction ∈ code, instruction.RefersInside fieldCount parameterCount strings

/-- An image is sound when the code of all its members is. -/
def ModuleImage.IsSound (image : ModuleImage) : Prop :=
  ∀ member ∈ image.members,
    member.code.IsSound image.fields.length member.parameters.length image.strings

theorem Instruction.RefersInside.extend
    {fieldCount parameterCount : Nat}
    {strings larger : StringPool}
    {instruction : Instruction}
    (refers : instruction.RefersInside fieldCount parameterCount strings)
    (extension : larger.Extends strings) :
    instruction.RefersInside fieldCount parameterCount larger := by
  have keeps : ∀ index, (strings.get? index).isSome → (larger.get? index).isSome := by
    intro index there
    obtain ⟨text, found⟩ := Option.isSome_iff_exists.mp there
    rw [extension.get?_eq_some found]
    rfl
  cases instruction with
  | pushString index => exact keeps index refers
  | callExternal index arity => exact keeps index refers
  | loadField index => exact refers
  | storeField index => exact refers
  | loadParameter index => exact refers
  | pushInt number => trivial
  | concatenate count => trivial
  | returnValue => trivial
  | returnVoid => trivial

theorem Code.IsSound.extend
    {fieldCount parameterCount : Nat}
    {strings larger : StringPool}
    {code : Code}
    (sound : code.IsSound fieldCount parameterCount strings)
    (extension : larger.Extends strings) :
    code.IsSound fieldCount parameterCount larger where
  ends := sound.ends
  refers instruction present := (sound.refers instruction present).extend extension

namespace ModuleImage

theorem instructionFault?_eq_none_iff
    (image : ModuleImage)
    (member : Member)
    (instruction : Instruction) :
    image.instructionFault? member instruction = none ↔
      instruction.RefersInside image.fields.length member.parameters.length image.strings := by
  cases instruction <;>
    simp [instructionFault?, Instruction.RefersInside, Option.isSome_iff_ne_none]

theorem memberFault?_eq_none_iff
    (image : ModuleImage)
    (member : Member) :
    image.memberFault? member = none ↔
      member.code.IsSound image.fields.length member.parameters.length image.strings := by
  unfold memberFault?
  split
  · next ends =>
    rw [List.findSome?_eq_none_iff]
    constructor
    · intro clean
      exact ⟨ends, fun instruction present =>
        (image.instructionFault?_eq_none_iff member instruction).mp (clean instruction present)⟩
    · intro sound instruction present
      exact (image.instructionFault?_eq_none_iff member instruction).mpr
        (sound.refers instruction present)
  · next open_ =>
    constructor
    · intro impossible
      simp at impossible
    · intro sound
      exact absurd sound.ends open_

/-- An image passes its check exactly when it is sound. -/
theorem verify_eq_ok_iff (image : ModuleImage) : image.verify = .ok () ↔ image.IsSound := by
  have clean : image.verify = .ok () ↔ ∀ member ∈ image.members, image.memberFault? member = none := by
    unfold verify
    split
    · next fault found =>
      obtain ⟨member, present, faulty⟩ := List.exists_of_findSome?_eq_some found
      constructor
      · intro impossible
        simp at impossible
      · intro allClean
        rw [allClean member present] at faulty
        simp at faulty
    · next none =>
      rw [List.findSome?_eq_none_iff] at none
      simpa using none
  rw [clean]
  exact forall_congr' fun member => imp_congr_right fun _ => image.memberFault?_eq_none_iff member

end ModuleImage
end LateBinding
