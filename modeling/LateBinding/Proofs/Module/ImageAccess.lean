import LateBinding.Module.Image
import LateBinding.Proofs.Module.CodeAccess
import LateBinding.Proofs.Module.ContainerAccess
import LateBinding.Proofs.Module.StoredPool

/-!
# Module images by position

A module comes to an image or to a failure on all bytes: its tables are read with cursors, its texts are
looked up in the stored pool, and each code is cut out of the code section behind the check that it is there.
-/

namespace LateBinding

/-! ## Types and fields -/

section Types

variable {strings : StoredPool}

/-- The type of the next eight bytes. -/
def ValueType.cursor (strings : StoredPool) : Cursor TableError ValueType := do
  let code ← Cursor.byte
  Cursor.skip 3
  let index ← Cursor.word32
  let name ← if index = noName then pure none else some <$> strings.resolve index
  Cursor.require (.invalidTypeCode code) (ValueType.ofCode? code name)

theorem ValueType.follows_cursor (complete : strings.IsComplete) :
    Cursor.Follows (ValueType.cursor strings) (ValueType.read strings.toPool) := by
  refine Cursor.follows_byte.bind fun code => ?_
  refine (Cursor.follows_skip 3).bind fun _ => ?_
  refine Cursor.follows_word32.bind fun index => ?_
  dsimp only
  split
  · exact (Cursor.follows_pure none).bind fun name => Cursor.follows_require _ _
  · exact ((complete.follows_resolve index).map some).bind fun name => Cursor.follows_require _ _

/-- The visibility of the next byte. -/
def Visibility.cursor : Cursor TableError Visibility := do
  let code ← Cursor.byte
  Cursor.require (.invalidVisibility code) (Visibility.ofCode? code)

theorem Visibility.follows_cursor : Cursor.Follows Visibility.cursor Visibility.read :=
  Cursor.follows_byte.bind fun _ => Cursor.follows_require _ _

/-- The field of the next bytes. -/
def Field.cursor (strings : StoredPool) : Cursor TableError Field := do
  let name ← strings.resolve (← Cursor.word32)
  let visibility ← Visibility.cursor
  Cursor.skip 3
  let type ← ValueType.cursor strings
  return ⟨name, type, visibility⟩

theorem Field.follows_cursor (complete : strings.IsComplete) :
    Cursor.Follows (Field.cursor strings) (Field.read strings.toPool) := by
  refine Cursor.follows_word32.bind fun index => ?_
  refine (complete.follows_resolve index).bind fun name => ?_
  refine Visibility.follows_cursor.bind fun visibility => ?_
  refine (Cursor.follows_skip 3).bind fun _ => ?_
  exact (ValueType.follows_cursor complete).bind fun type => Cursor.follows_pure _

end Types

namespace ModuleImage

variable {strings : StoredPool} {codeData : Bytes}

/-! ## Tables -/

/-- The type information of the next bytes. -/
def Info.cursor (strings : StoredPool) : Cursor TableError Info := do
  let name ← strings.resolve (← Cursor.word32)
  let fieldCount ← Cursor.word32
  let methodCount ← Cursor.word32
  let flags ← Cursor.word32
  Cursor.finish
  return {
    name
    fieldCount := fieldCount.toNat
    methodCount := methodCount.toNat
    explicitConstructor := flags &&& 1 ≠ 0 }

theorem Info.follows_cursor (complete : strings.IsComplete) :
    Cursor.Follows (Info.cursor strings) (Info.read strings.toPool) := by
  refine Cursor.follows_word32.bind fun index => ?_
  refine (complete.follows_resolve index).bind fun name => ?_
  refine Cursor.follows_word32.bind fun fieldCount => ?_
  refine Cursor.follows_word32.bind fun methodCount => ?_
  refine Cursor.follows_word32.bind fun flags => ?_
  exact Cursor.follows_finish.bind fun _ => Cursor.follows_pure _

/-- A table of fields, so many of them and nothing else. -/
def fieldsCursor (strings : StoredPool) (count : Nat) : Cursor TableError (List Field) := do
  let fields ← (Field.cursor strings).times count
  Cursor.finish
  return fields

theorem follows_fieldsCursor (complete : strings.IsComplete) (count : Nat) :
    Cursor.Follows (fieldsCursor strings count)
      (readAll (Field.read strings.toPool) count) := by
  refine ((Field.follows_cursor complete).times count).bind fun fields => ?_
  exact Cursor.follows_finish.bind fun _ => Cursor.follows_pure fields

/-! ## Members -/

/-- The code of a range of the code section. -/
def codeCursor (codeData : Bytes) (offset size : UInt32) : Access ModuleError Code := do
  let finish ← Access.sum? offset.toNat size.toNat
  match codeData.window? offset.toNat finish with
  | none => throw .invalidOffset
  | some bytes => ExceptT.adapt ModuleError.code (Code.decodeAt bytes 0)

/-- The member of the next bytes; a member has at most 255 parameters. -/
def memberCursor (strings : StoredPool) (codeData : Bytes) : Cursor ModuleError Member := do
  let name ← Cursor.adapt .table (do strings.resolve (← Cursor.word32))
  let result ← Cursor.adapt .table (ValueType.cursor strings)
  let parameterCount ← Cursor.adapt .table Cursor.word32
  let codeOffset ← Cursor.adapt .table Cursor.word32
  let codeSize ← Cursor.adapt .table Cursor.word32
  if 255 < parameterCount.toNat then
    throw (.inconsistent s!"{name} declares {parameterCount} parameters")
  let parameters ← Cursor.adapt .table ((ValueType.cursor strings).times parameterCount.toNat)
  let code ← codeCursor codeData codeOffset codeSize
  return ⟨name, result, parameters, code⟩

/-- The members of a table. -/
def membersCursor (strings : StoredPool) (codeData : Bytes) :
    Cursor ModuleError (List Member) := do
  let count ← Cursor.adapt .table Cursor.word32
  let members ← (memberCursor strings codeData).times count.toNat
  Cursor.adapt .table Cursor.finish
  return members

theorem follows_adapt
    {cursor : Cursor TableError Item}
    {reader : ByteReader Item}
    (follows : Cursor.Follows cursor reader) :
    Cursor.Follows (cursor.adapt .table) (ofTable reader) := by
  intro bytes position addressable inside
  unfold ofTable
  rcases follows bytes position addressable inside with
    ⟨item, next, within, gives, read⟩ | ⟨fault, behind, gives, read⟩
  · rw [read]
    exact .inl ⟨item, next, within, gives.adapt _, rfl⟩
  · rw [read]
    exact .inr ⟨_, behind, gives.adapt _, rfl⟩

theorem follows_codeCursor
    (addressable : codeData.IsAddressable)
    (offset size : UInt32) :
    Cursor.Follows (liftM (codeCursor codeData offset size))
      (codeAt codeData offset.toNat size.toNat) := by
  have first := offset.toNat_lt
  have second := size.toNat_lt
  have finish : Access.sum? offset.toNat size.toNat = some (offset.toNat + size.toNat) :=
    if_pos (by omega)
  unfold codeAt
  cases inside : codeData.slice? offset.toNat size.toNat with
  | none =>
      refine Cursor.follows_of_gives_error ?_
      refine (Access.gives_of_some finish).bind_ok ?_
      rw [Bytes.window?_add, inside]
      exact Access.gives_throw _
  | some bytes =>
      have decoded : (codeCursor codeData offset size).Gives
          ((Code.decode bytes).mapError ModuleError.code) := by
        refine (Access.gives_of_some finish).bind_ok ?_
        rw [Bytes.window?_add, inside]
        rw [← Bytes.window?_add] at inside
        exact (Code.decodeAt_gives (addressable.window inside) 0).adapt _
      dsimp only
      cases outcome : Code.decode bytes with
      | error fault =>
          rw [outcome] at decoded
          exact Cursor.follows_of_gives_error decoded
      | ok code =>
          rw [outcome] at decoded
          exact Cursor.follows_of_gives_ok decoded

theorem follows_memberCursor
    (complete : strings.IsComplete)
    (addressable : codeData.IsAddressable) :
    Cursor.Follows (memberCursor strings codeData) (readMember strings.toPool codeData) := by
  have readType := ValueType.follows_cursor complete
  have readWord := follows_adapt Cursor.follows_word32
  have readName := Cursor.follows_word32.bind fun index => complete.follows_resolve index
  refine (follows_adapt readName).bind fun name => ?_
  refine (follows_adapt readType).bind fun result => ?_
  refine readWord.bind fun parameterCount => ?_
  refine readWord.bind fun codeOffset => ?_
  refine readWord.bind fun codeSize => ?_
  dsimp only
  split
  · exact Cursor.follows_throw _
  · refine (follows_adapt (readType.times parameterCount.toNat)).bind fun parameters => ?_
    refine (follows_codeCursor addressable codeOffset codeSize).bind fun code => ?_
    exact Cursor.follows_pure _

theorem follows_times_memberCursor
    (complete : strings.IsComplete)
    (addressable : codeData.IsAddressable)
    (count : Nat) :
    Cursor.Follows ((memberCursor strings codeData).times count)
      (readMembers strings.toPool codeData count) := by
  induction count with
  | zero => exact Cursor.follows_pure []
  | succ count inductionHypothesis =>
      refine (follows_memberCursor complete addressable).bind fun member => ?_
      exact inductionHypothesis.bind fun members => Cursor.follows_pure (member :: members)

theorem follows_membersCursor
    (complete : strings.IsComplete)
    (addressable : codeData.IsAddressable) :
    Cursor.Follows (membersCursor strings codeData)
      (readMemberTable strings.toPool codeData) := by
  refine (follows_adapt Cursor.follows_word32).bind fun count => ?_
  refine (follows_times_memberCursor complete addressable count.toNat).bind fun members => ?_
  exact (follows_adapt Cursor.follows_finish).bind fun _ => Cursor.follows_pure members

theorem on_gives
    {cursor : Cursor ModuleError Item}
    {reader : PartReader Item}
    (follows : Cursor.Follows cursor reader)
    {bytes : Bytes}
    (addressable : bytes.IsAddressable) :
    (cursor.on bytes).Gives (reader.on bytes) := by
  unfold PartReader.on
  rcases follows.cases_on addressable with ⟨item, behind, gives, read⟩ | ⟨fault, behind, gives, read⟩
  · rw [read]
    exact gives
  · rw [read]
    exact gives

/-! ## Verification -/

/-- What is wrong with an index of a text, which is looked up in the stored pool. -/
def textFaultAt (strings : StoredPool) (index : UInt32) : Option (Option String) := do
  if (← strings.get index).isSome then return none
  else return some s!"string index {index} out of range"

/-- What is wrong with an instruction. -/
def instructionFaultAt
    (strings : StoredPool)
    (image : ModuleImage)
    (member : Member) :
    Instruction → Option (Option String)
  | .pushString index | .callExternal index _ => textFaultAt strings index
  | instruction => return image.instructionFault? member instruction

/-- What is wrong with the code of a member. -/
def memberFaultAt
    (strings : StoredPool)
    (image : ModuleImage)
    (member : Member) :
    Option (Option String) :=
  if member.code.getLast?.any Instruction.isReturn then
    member.code.findSomeM? (instructionFaultAt strings image member)
  else return some "code does not end with a return"

/-- What is wrong with the code of a member, with the signature of the member in front. -/
def signedFaultAt
    (strings : StoredPool)
    (image : ModuleImage)
    (member : Member) :
    Option (Option String) := do
  return (← memberFaultAt strings image member).map fun fault => s!"{member.signature}: {fault}"

/-- Asks that the code of all members refers only to what is there and ends with a return. -/
def verifyAt (strings : StoredPool) (image : ModuleImage) : Access ModuleError Unit := do
  let found : Option (Option String) := image.members.findSomeM? (signedFaultAt strings image)
  match ← found with
  | some fault => throw (.inconsistent fault)
  | none => return ()

/-- A search whose look-ups all come to an end. -/
theorem findSomeM?_eq_some
    {look : Item → Option (Option Result)}
    {found : Item → Option Result}
    (each : ∀ item, look item = some (found item))
    (items : List Item) :
    items.findSomeM? look = some (items.findSome? found) := by
  induction items with
  | nil => rfl
  | cons item rest inductionHypothesis =>
      rw [List.findSomeM?, each, List.findSome?_cons]
      cases found item with
      | none => exact inductionHypothesis
      | some result => rfl

theorem instructionFaultAt_eq
    (complete : strings.IsComplete)
    {image : ModuleImage}
    (pool : image.strings = strings.toPool)
    (member : Member)
    (instruction : Instruction) :
    instructionFaultAt strings image member instruction =
      some (image.instructionFault? member instruction) := by
  have text (index : UInt32) : textFaultAt strings index =
      some (if (image.strings.get? index).isSome then none
        else some s!"string index {index} out of range") := by
    unfold textFaultAt
    rw [complete.get_eq index, pool]
    change (if (strings.toPool.get? index).isSome then _ else _) = _
    split <;> rfl
  cases instruction with
  | pushString index => exact text index
  | callExternal index arity => exact text index
  | _ => rfl

theorem memberFaultAt_eq
    (complete : strings.IsComplete)
    {image : ModuleImage}
    (pool : image.strings = strings.toPool)
    (member : Member) :
    memberFaultAt strings image member = some (image.memberFault? member) := by
  unfold memberFaultAt memberFault?
  split
  · exact findSomeM?_eq_some (instructionFaultAt_eq complete pool member) member.code
  · rfl

theorem verifyAt_gives
    (complete : strings.IsComplete)
    {image : ModuleImage}
    (pool : image.strings = strings.toPool) :
    (verifyAt strings image).Gives image.verify := by
  have each (member : Member) : signedFaultAt strings image member =
      some ((image.memberFault? member).map fun fault => s!"{member.signature}: {fault}") := by
    unfold signedFaultAt
    rw [memberFaultAt_eq complete pool]
    rfl
  refine (Access.gives_of_some (findSomeM?_eq_some each image.members)).bind_ok ?_
  unfold verify
  cases image.members.findSome? fun member =>
      (image.memberFault? member).map fun fault => s!"{member.signature}: {fault}" with
  | some fault => exact Access.gives_throw _
  | none => exact Access.gives_pure _

/-! ## Whole modules -/

/-- The image of a module's bytes. -/
def decodeAt (bytes : Bytes) : Access ModuleError ModuleImage := do
  let container ← Container.decodeAt bytes
  let strings ←
    ExceptT.adapt ModuleError.table (StoredPool.deserialize (← container.readAt .stringPool))
  let info ←
    ExceptT.adapt ModuleError.table ((Info.cursor strings).on (← container.readAt .typeInfo))
  let fields ←
    ExceptT.adapt ModuleError.table
      ((fieldsCursor strings info.fieldCount).on (← container.readAt .fieldTable))
  let codeData ← container.readAt .codeData
  let constructors ← (membersCursor strings codeData).on (← container.readAt .constructorTable)
  let methods ← (membersCursor strings codeData).on (← container.readAt .methodTable)
  if constructors.length ≠ 1 then
    throw (.inconsistent s!"expected exactly one constructor, found {constructors.length}")
  else if methods.length ≠ info.methodCount then
    throw (.inconsistent
      s!"type info declares {info.methodCount} methods, table has {methods.length}")
  else do
    let constructor ← (constructors[0]? : Option Member)
    let image : ModuleImage := {
      name := info.name
      fields
      explicitConstructor := info.explicitConstructor
      constructor
      methods
      strings := strings.toPool }
    image.verifyAt strings
    return image

/-- Sections are no longer than the container. -/
theorem isAddressable_of_read
    {container : Container}
    {kind : SectionKind}
    {content : Bytes}
    (addressable : container.bytes.IsAddressable)
    (read : container.read kind = .ok content) :
    content.IsAddressable := by
  unfold Container.read at read
  split at read
  · nomatch read
  · split at read
    · nomatch read
    · next inside =>
      obtain rfl := Except.ok.inj read
      rw [← Bytes.window?_add] at inside
      exact addressable.window inside

/-- Reading a module by position comes to the same as reading it from the front. -/
theorem decodeAt_gives
    {bytes : Bytes}
    (addressable : bytes.IsAddressable) :
    (decodeAt bytes).Gives (decode bytes) := by
  unfold decodeAt decode
  refine (Container.decodeAt_gives bytes).bind fun container decoded => ?_
  have whole : container.bytes.IsAddressable :=
    (Container.sections_inside_of_decode decoded).1 ▸ addressable
  refine (container.readAt_gives .stringPool).bind fun stored readPool => ?_
  obtain ⟨outcome, gives, same, accepted⟩ :=
    StoredPool.deserialize_gives (isAddressable_of_read whole readPool)
  rw [same, Outcome.mapError_map]
  refine (gives.adapt _).bind_map fun strings pooled => ?_
  -- From here on texts are looked up in an accepted pool, where no look-up can miss.
  have complete := accepted strings (Outcome.mapError_eq_ok_iff.mp pooled)
  refine (container.readAt_gives .typeInfo).bind fun stored readInfo => ?_
  have infoGives := (Info.follows_cursor complete).on (isAddressable_of_read whole readInfo)
  refine (infoGives.adapt _).bind fun info _ => ?_
  refine (container.readAt_gives .fieldTable).bind fun stored readFields => ?_
  have fieldsGive := (follows_fieldsCursor complete info.fieldCount).on
    (isAddressable_of_read whole readFields)
  refine (fieldsGive.adapt _).bind fun fields _ => ?_
  refine (container.readAt_gives .codeData).bind fun codeData readCode => ?_
  have follows := follows_membersCursor complete (isAddressable_of_read whole readCode)
  refine (container.readAt_gives .constructorTable).bind fun stored readConstructors => ?_
  refine (on_gives follows (isAddressable_of_read whole readConstructors)).bind
    fun constructors _ => ?_
  refine (container.readAt_gives .methodTable).bind fun stored readMethods => ?_
  refine (on_gives follows (isAddressable_of_read whole readMethods)).bind fun methods _ => ?_
  match constructors with
  | [] => exact Access.gives_throw _
  | _ :: _ :: _ => exact Access.gives_throw _
  | [constructor] =>
      have one : ¬ [constructor].length ≠ 1 := not_not.mpr rfl
      rw [if_neg one]
      dsimp only
      by_cases miscounted : methods.length ≠ info.methodCount
      · rw [if_pos miscounted, if_pos miscounted]
        exact Access.gives_throw _
      rw [if_neg miscounted, if_neg miscounted]
      refine (Access.gives_of_some rfl).bind_ok ?_
      exact (verifyAt_gives complete rfl).bind fun _ _ => Access.gives_pure _

end ModuleImage

/-! ## All readers of modules -/

namespace Bytes

/--
Whatever these bytes are taken for, no position outside of them is looked at: every reader comes to an
outcome, the one of reading from the front.  What has been accepted is there when it is looked up later.
-/
structure IsReadSafely (bytes : Bytes) : Prop where
  /-- As a container. -/
  container : (Container.decodeAt bytes).Gives (Container.decode bytes)
  /-- The sections of the container, of which none is cut off. -/
  sections : ∀ container, Container.decode bytes = .ok container → ∀ kind,
    (container.readAt kind).Gives (container.read kind) ∧
      container.read kind ≠ .error .invalidOffset
  /-- As a stored pool, which has an entry for each of its indices. -/
  pool : ∃ outcome, (StoredPool.deserialize bytes).Gives outcome ∧
    StringPool.decode bytes = outcome.map StoredPool.toPool ∧
    ∀ pool, outcome = .ok pool → ∀ index < pool.offsets.length, ∃ entry,
      pool.bytesOf index = some (some entry) ∧ pool.toPool.entries[index]? = some entry
  /-- As code. -/
  code : (Code.decodeAt bytes 0).Gives (Code.decode bytes)
  /-- As a whole module. -/
  image : (ModuleImage.decodeAt bytes).Gives (ModuleImage.decode bytes)

/-- All byte strings of an address space of 64 bits are read without looking outside of them. -/
theorem isReadSafely_of_isAddressable
    {bytes : Bytes}
    (addressable : bytes.IsAddressable) :
    bytes.IsReadSafely where
  container := Container.decodeAt_gives bytes
  sections container decoded kind :=
    ⟨container.readAt_gives kind, Container.read_ne_invalidOffset_of_decode decoded kind⟩
  pool := by
    obtain ⟨outcome, gives, same, accepted⟩ := StoredPool.deserialize_gives addressable
    refine ⟨outcome, gives, same, fun pool accept index inside => ?_⟩
    exact (accepted pool accept).bytesOf_eq_some inside
  code := Code.decodeAt_gives addressable 0
  image := ModuleImage.decodeAt_gives addressable

/-- A container of two sections, one of which is empty and ends where the directory starts. -/
def smallContainer : Bytes :=
  (ContainerWriter.ofSections [(.codeData, [0x41]), (.fieldTable, [])]).finish

/-- The sections of the small container are there, the empty one too. -/
theorem smallContainer_isReadSafely :
    smallContainer.IsAddressable ∧ smallContainer.IsReadSafely ∧
      ∃ container, Container.decode smallContainer = .ok container ∧
        (container.readAt .codeData).Gives (.ok [0x41]) ∧
        (container.readAt .fieldTable).Gives (.ok []) ∧
        (container.readAt .typeInfo).Gives (.error (.sectionNotFound .typeInfo)) := by
  have addressable : smallContainer.IsAddressable := by
    unfold IsAddressable
    have length : smallContainer.length = 72 := by decide +kernel
    rw [length]
    decide
  have safe := isReadSafely_of_isAddressable addressable
  have decoded : (Container.decode smallContainer).map (fun container =>
      (container.read .codeData, container.read .fieldTable, container.read .typeInfo)) =
      .ok (.ok [0x41], .ok [], .error (.sectionNotFound .typeInfo)) := by
    decide +kernel
  obtain ⟨container, decoded, contents⟩ := Outcome.map_eq_ok_iff.mp decoded
  obtain ⟨code, contents⟩ := Prod.mk.inj contents
  obtain ⟨fields, info⟩ := Prod.mk.inj contents
  refine ⟨addressable, safe, container, decoded, ?_, ?_, ?_⟩
  · exact code ▸ (safe.sections container decoded .codeData).1
  · exact fields ▸ (safe.sections container decoded .fieldTable).1
  · exact info ▸ (safe.sections container decoded .typeInfo).1

end Bytes
end LateBinding
