import LateBinding.Proofs.Module.Container
import LateBinding.Proofs.Module.Tables
import LateBinding.Proofs.Module.Verification

/-!
# Closed images

Encoding an image adds the names of its parts to its pool.  An image whose pool holds them from the
start is called closed; it is read back from its bytes unchanged.  Every image has the bytes of a
closed one.
-/

namespace LateBinding
namespace ModuleImage

/-- The pool of a closed image holds all names of the image. -/
def IsClosed (image : ModuleImage) : Prop :=
  ∀ text ∈ image.texts, image.strings.Holds text

/-- The image with the names of its parts in its pool. -/
def closure (image : ModuleImage) : ModuleImage :=
  { image with strings := image.strings.addAll image.texts }

theorem closure_extends (image : ModuleImage) : image.closure.strings.Extends image.strings :=
  image.strings.addAll_extends image.texts

theorem isClosed_closure (image : ModuleImage) : image.closure.IsClosed :=
  fun _ present => StringPool.holds_addAll present

/-- The sections of an image, the pool first. -/
def sections (image : ModuleImage) : List Section :=
  let (tables, strings) := image.tables.run image.strings
  (.stringPool, strings.encode) :: tables

theorem encode_eq_finish (image : ModuleImage) :
    image.encode = (ContainerWriter.ofSections image.sections).finish := rfl

/-- An image has the bytes of its closure. -/
theorem encode_closure (image : ModuleImage) : image.closure.encode = image.encode := by
  -- The closure is the pool after the tables have been written, so writing them again adds nothing.
  have same : image.tables image.closure.strings =
      ((image.tables image.strings).1, image.closure.strings) := by
    apply image.tables_adds.repeats
    rw [image.tables_adds.pool_eq]
    exact StringPool.Extends.refl _
  have whole : image.closure.sections = image.sections := by
    change (SectionKind.stringPool, (image.tables image.closure.strings).2.encode) ::
        (image.tables image.closure.strings).1 =
      (SectionKind.stringPool, (image.tables image.strings).2.encode) ::
        (image.tables image.strings).1
    rw [same, image.tables_adds.pool_eq]
    rfl
  rw [encode_eq_finish, encode_eq_finish, whole]

/-! ## The sections of a closed image -/

variable {image : ModuleImage}

theorem isClosed_iff :
    image.IsClosed ↔ image.strings.Holds image.name ∧
      (∀ field ∈ image.fields, ∀ text ∈ field.texts, image.strings.Holds text) ∧
      ∀ member ∈ image.members, ∀ text ∈ member.texts, image.strings.Holds text :=
  forall_mem_texts

/-- The type information of a closed image. -/
def infoBytes (image : ModuleImage) : Bytes :=
  Bytes.ofWord32 (image.strings.add image.name).1 ++ (Bytes.ofNat32 image.fields.length ++
    (Bytes.ofNat32 image.methods.length ++ Bytes.ofWord32 image.flags))

/-- The field table of a closed image. -/
def fieldBytes (image : ModuleImage) : Bytes :=
  image.fields.flatMap fun field => (field.encode image.strings).1

/-- The table of members of a closed image whose code starts at an offset. -/
def memberBytes (image : ModuleImage) (codeOffset : Nat) (members : List Member) : Bytes :=
  Bytes.ofNat32 members.length ++ (Member.encodeFrom codeOffset members image.strings).1

theorem sections_of_isClosed (closed : image.IsClosed) :
    image.sections =
      [(.stringPool, image.strings.encode), (.typeInfo, image.infoBytes),
        (.fieldTable, image.fieldBytes),
        (.constructorTable, image.memberBytes 0 [image.constructor]),
        (.methodTable,
          image.memberBytes image.constructor.code.encode.length image.methods),
        (.codeData, Member.codeOf image.members)] := by
  obtain ⟨heldName, heldFields, heldMembers⟩ := isClosed_iff.mp closed
  have afterAll : (image.tables image.strings).2 = image.strings :=
    image.tables_adds.pool_eq_of_holds closed
  have afterField : ∀ field ∈ image.fields, (field.encode image.strings).2 = image.strings := by
    intro field present
    exact field.encode_adds.pool_eq_of_holds (heldFields field present)
  have afterFields : (Pooled.concat Field.encode image.fields image.strings).2 = image.strings := by
    apply (Pooled.Adds.concat image.fields fun field _ => field.encode_adds).pool_eq_of_holds
    exact List.forall_mem_flatMap.mpr heldFields
  have afterConstructor :
      (Member.encodeFrom 0 [image.constructor] image.strings).2 = image.strings := by
    apply (Member.encodeFrom_adds [image.constructor] 0).pool_eq_of_holds
    rw [List.flatMap_singleton]
    exact heldMembers image.constructor List.mem_cons_self
  have whole : image.sections =
      [(.stringPool, (image.tables image.strings).2.encode),
        (.typeInfo, Bytes.ofWord32 (image.strings.add image.name).1 ++
          Bytes.ofNat32 image.fields.length ++ Bytes.ofNat32 image.methods.length ++
          Bytes.ofWord32 image.flags),
        (.fieldTable,
          (Pooled.concat Field.encode image.fields (image.strings.add image.name).2).1),
        (.constructorTable, Bytes.ofNat32 1 ++
          (Member.encodeFrom 0 [image.constructor]
            (Pooled.concat Field.encode image.fields (image.strings.add image.name).2).2).1),
        (.methodTable, Bytes.ofNat32 image.methods.length ++
          (Member.encodeFrom image.constructor.code.encode.length image.methods
            (Member.encodeFrom 0 [image.constructor]
              (Pooled.concat Field.encode image.fields
                (image.strings.add image.name).2).2).2).1),
        (.codeData, Member.codeOf image.members)] := rfl
  rw [whole, afterAll, StringPool.snd_add_of_holds heldName, afterFields, afterConstructor,
    Pooled.concat_of_fixed afterField]
  simp only [infoBytes, fieldBytes, memberBytes, List.append_assoc, List.length_singleton]

/-! ## Reading the sections -/

theorem fits_of_short
    (short : image.encode.length < 2 ^ 32) :
    (ContainerWriter.ofSections image.sections).Fits image.sections where
  holds := ContainerWriter.holds_ofSections image.sections
  few := by
    change 6 < 2 ^ 16
    decide
  short := short

theorem length_lt_of_short
    (short : image.encode.length < 2 ^ 32)
    (kind : SectionKind)
    (content : Bytes)
    (present : (kind, content) ∈ image.sections) :
    content.length < 2 ^ 32 :=
  (fits_of_short short).length_lt present

theorem isSmall_of_short
    (short : image.encode.length < 2 ^ 32)
    (closed : image.IsClosed) :
    image.strings.IsSmall := by
  have shortPool : image.strings.encode.length < 2 ^ 32 :=
    length_lt_of_short short .stringPool _ (by simp [sections_of_isClosed closed])
  rw [StringPool.length_encode] at shortPool
  rw [StringPool.IsSmall]
  omega

/-- Items whose bytes are not empty are at most as many as their bytes. -/
theorem length_le_length_flatMap
    {encode : Item → Bytes}
    {items : List Item}
    (nonempty : ∀ item ∈ items, 0 < (encode item).length) :
    items.length ≤ (items.flatMap encode).length := by
  induction items with
  | nil => simp
  | cons item rest inductionHypothesis =>
      obtain ⟨first, later⟩ := List.forall_mem_cons.mp nonempty
      have enough := inductionHypothesis later
      rw [List.flatMap_cons, List.length_append, List.length_cons]
      omega

theorem length_le_length_encodeFrom
    (codeOffset : Nat)
    (members : List Member)
    (strings : StringPool) :
    members.length ≤ (Member.encodeFrom codeOffset members strings).1.length := by
  induction members generalizing codeOffset strings with
  | nil => simp
  | cons member rest inductionHypothesis =>
      have run : (Member.encodeFrom codeOffset (member :: rest) strings).1 =
          (member.encode codeOffset strings).1 ++
            (Member.encodeFrom (codeOffset + member.code.encode.length) rest
              (member.encode codeOffset strings).2).1 := rfl
      have first : 0 < (member.encode codeOffset strings).1.length := Nat.succ_pos _
      have later := inductionHypothesis (codeOffset + member.code.encode.length)
        (member.encode codeOffset strings).2
      rw [run, List.length_append, List.length_cons]
      omega

/-- The type information of an image is read back. -/
theorem on_infoBytes
    (short : image.encode.length < 2 ^ 32)
    (closed : image.IsClosed) :
    (Info.read image.strings).on image.infoBytes =
      .ok ⟨image.name, image.fields.length, image.methods.length, image.explicitConstructor⟩ := by
  have small := isSmall_of_short short closed
  obtain ⟨heldName, _, _⟩ := isClosed_iff.mp closed
  have fieldCount : (UInt32.ofNat image.fields.length).toNat = image.fields.length := by
    have bound : image.fieldBytes.length < 2 ^ 32 :=
      length_lt_of_short short .fieldTable _ (by simp [sections_of_isClosed closed])
    have count : image.fields.length ≤ image.fieldBytes.length :=
      length_le_length_flatMap fun field _ => Nat.succ_pos _
    exact Bytes.toNat_ofNat32 (by omega)
  have methodCount : (UInt32.ofNat image.methods.length).toNat = image.methods.length := by
    have bound : (image.memberBytes image.constructor.code.encode.length
        image.methods).length < 2 ^ 32 :=
      length_lt_of_short short .methodTable _ (by simp [sections_of_isClosed closed])
    have count := length_le_length_encodeFrom image.constructor.code.encode.length image.methods
      image.strings
    rw [memberBytes, List.length_append] at bound
    exact Bytes.toNat_ofNat32 (by omega)
  have flag : decide (image.flags &&& 1 ≠ 0) = image.explicitConstructor := by
    unfold flags
    cases image.explicitConstructor <;> rfl
  refine ByteReader.on_eq_ok_iff.mpr ⟨[], ?_⟩
  rw [infoBytes]
  refine bind_eq_ok_iff.mpr ⟨_, _, ByteReader.reads_word32 _ _, ?_⟩
  refine bind_eq_ok_iff.mpr ⟨_, _, StringPool.reads_reader small heldName _, ?_⟩
  refine bind_eq_ok_iff.mpr ⟨_, _, ByteReader.reads_ofNat32 image.fields.length _, ?_⟩
  refine bind_eq_ok_iff.mpr ⟨_, _, ByteReader.reads_ofNat32 image.methods.length _, ?_⟩
  refine bind_eq_ok_iff.mpr ⟨_, _, (ByteReader.reads_word32 image.flags).toAll, ?_⟩
  refine bind_eq_ok_iff.mpr ⟨_, _, ByteReader.finish_nil, ?_⟩
  rw [fieldCount, methodCount, flag]
  rfl

/-- The field table of an image is read back. -/
theorem on_fieldBytes
    (short : image.encode.length < 2 ^ 32)
    (closed : image.IsClosed) :
    (readAll (Field.read image.strings) image.fields.length).on image.fieldBytes =
      .ok image.fields := by
  have small := isSmall_of_short short closed
  obtain ⟨_, heldFields, _⟩ := isClosed_iff.mp closed
  have fields : Reads ((Field.read image.strings).times image.fields.length)
      image.fieldBytes image.fields := by
    apply ByteReader.reads_times
    intro field present
    exact Field.reads small (heldFields field present)
  refine ByteReader.on_eq_ok_iff.mpr ⟨[], ?_⟩
  exact bind_eq_ok_iff.mpr
    ⟨_, _, fields.toAll, bind_eq_ok_iff.mpr ⟨_, _, ByteReader.finish_nil, rfl⟩⟩

/-- A table of members whose code stands in the code section is read back. -/
theorem on_memberBytes
    {codeData : Bytes}
    (front behind : Bytes)
    {members : List Member}
    (small : image.strings.IsSmall)
    (stands : codeData = front ++ Member.codeOf members ++ behind)
    (shortCode : codeData.length < 2 ^ 32)
    (shortTable : (image.memberBytes front.length members).length < 2 ^ 32)
    (narrow : ∀ member ∈ members, member.parameters.length ≤ 255)
    (holds : ∀ member ∈ members, ∀ text ∈ member.texts, image.strings.Holds text) :
    (readMemberTable image.strings codeData).on (image.memberBytes front.length members) =
      .ok members := by
  have count : (UInt32.ofNat members.length).toNat = members.length := by
    have enough := length_le_length_encodeFrom front.length members image.strings
    rw [memberBytes, List.length_append] at shortTable
    exact Bytes.toNat_ofNat32 (by omega)
  have table : readMemberTable image.strings codeData (image.memberBytes front.length members) =
      .ok members [] := by
    rw [memberBytes]
    refine bind_eq_ok_iff.mpr
      ⟨_, _, (ByteReader.reads_ofNat32 members.length).ofTable _, ?_⟩
    rw [count]
    refine bind_eq_ok_iff.mpr
      ⟨_, _, (Member.reads_members small stands shortCode narrow holds).toAll, ?_⟩
    exact bind_eq_ok_iff.mpr ⟨(), [], rfl, rfl⟩
  rw [PartReader.on, table]

/-- The bounds under which an image can be read back. -/
structure IsWritable (image : ModuleImage) : Prop where
  /-- The code of all members is sound. -/
  sound : image.IsSound
  /-- No member has more than 255 parameters. -/
  narrow : ∀ member ∈ image.members, member.parameters.length ≤ 255
  /-- The number of bytes is a word of 32 bits. -/
  short : image.encode.length < 2 ^ 32

/-- A closed image is read back from its bytes. -/
theorem decode_encode_of_isClosed
    (writable : image.IsWritable)
    (closed : image.IsClosed) :
    decode image.encode = .ok image := by
  have short := writable.short
  have small := isSmall_of_short short closed
  have sections := sections_of_isClosed closed
  have fits := fits_of_short short
  obtain ⟨_, _, heldMembers⟩ := isClosed_iff.mp closed
  obtain ⟨heldConstructor, heldMethods⟩ := List.forall_mem_cons.mp heldMembers
  obtain ⟨narrowConstructor, narrowMethods⟩ := List.forall_mem_cons.mp writable.narrow
  have read : ∀ kind content, image.sections.lookup kind = some content →
      (ContainerWriter.ofSections image.sections).container.read kind = .ok content := by
    intro kind content found
    rw [fits.read_container, found]
  have shortCode : (Member.codeOf image.members).length < 2 ^ 32 :=
    length_lt_of_short short .codeData _ (by simp [sections])
  have strings : StringPool.decode image.strings.encode = .ok image.strings :=
    StringPool.decode_encode _ (length_lt_of_short short .stringPool _ (by simp [sections]))
  have constructors : (readMemberTable image.strings (Member.codeOf image.members)).on
      (image.memberBytes 0 [image.constructor]) = .ok [image.constructor] := by
    have shortTable : (image.memberBytes 0 [image.constructor]).length < 2 ^ 32 :=
      length_lt_of_short short .constructorTable _ (by simp [sections])
    have stands : Member.codeOf image.members =
        [] ++ Member.codeOf [image.constructor] ++ Member.codeOf image.methods := by
      simp [Member.codeOf, ModuleImage.members]
    exact on_memberBytes [] (Member.codeOf image.methods) small stands shortCode shortTable
      (List.forall_mem_singleton.mpr narrowConstructor)
      (List.forall_mem_singleton.mpr heldConstructor)
  have methods : (readMemberTable image.strings (Member.codeOf image.members)).on
      (image.memberBytes image.constructor.code.encode.length image.methods) =
        .ok image.methods := by
    have shortTable :
        (image.memberBytes image.constructor.code.encode.length image.methods).length < 2 ^ 32 :=
      length_lt_of_short short .methodTable _ (by simp [sections])
    have stands : Member.codeOf image.members =
        image.constructor.code.encode ++ Member.codeOf image.methods ++ [] := by
      simp [Member.codeOf, ModuleImage.members]
    exact on_memberBytes image.constructor.code.encode [] small stands shortCode shortTable
      narrowMethods heldMethods
  have verified : image.verify = .ok () := image.verify_eq_ok_iff.mpr writable.sound
  have info := on_infoBytes short closed
  have fields := on_fieldBytes short closed
  rw [encode_eq_finish, decode, fits.decode_finish]
  simp only [bind, Except.bind]
  rw [read .stringPool _ (by rw [sections]; rfl)]
  simp only [strings, Except.mapError]
  rw [read .typeInfo _ (by rw [sections]; rfl)]
  simp only [info]
  rw [read .fieldTable _ (by rw [sections]; rfl)]
  simp only [fields]
  rw [read .codeData _ (by rw [sections]; rfl)]
  simp only
  rw [read .constructorTable _ (by rw [sections]; rfl)]
  simp only [constructors]
  rw [read .methodTable _ (by rw [sections]; rfl)]
  simp only [methods]
  rw [if_neg (not_not.mpr rfl)]
  have whole : ModuleImage.mk image.name image.fields image.explicitConstructor image.constructor
      image.methods image.strings = image := rfl
  rw [whole, verified]
  rfl

end ModuleImage
end LateBinding
