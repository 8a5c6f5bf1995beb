import LateBinding.Proofs.Module.ClosedImage
import LateBinding.Proofs.Outcome

/-!
# What reading a module tells

Every name in an image that has been read was looked up in its pool, so the pool holds it.  No member
has more than 255 parameters, and the code of all members is sound.
-/

namespace LateBinding

variable {strings : StringPool}

/-! ## Parts of tables -/

theorem StringPool.holds_of_reader
    {index : UInt32}
    {bytes behind : Bytes}
    {text : String}
    (read : strings.reader index bytes = .ok text behind) :
    strings.Holds text :=
  holds_of_get? (ByteReader.require_eq_ok_iff.mp read).1

/-- A text whose index has been read is held. -/
theorem StringPool.holds_of_readText
    {bytes behind : Bytes}
    {text : String}
    (read : (do strings.reader (← ByteReader.word32)) bytes = .ok text behind) :
    strings.Holds text := by
  obtain ⟨index, middle, _, looked⟩ := bind_eq_ok_iff.mp read
  exact holds_of_reader looked

theorem ValueType.name_eq_of_ofCode?
    {code : UInt8}
    {carried : Option String}
    {name : String}
    (found : ofCode? code carried = some (named name)) :
    carried = some name := by
  unfold ofCode? at found
  repeat
    split at found
    · simp at found
  split at found
  · simpa using found
  · simp at found

/-- A type that has been read has a name of the pool, if it has one. -/
theorem ValueType.holds_of_read
    {bytes behind : Bytes}
    {type : ValueType}
    (read : ValueType.read strings bytes = .ok type behind) :
    ∀ text ∈ type.texts, strings.Holds text := by
  obtain ⟨code, afterCode, _, read⟩ := bind_eq_ok_iff.mp read
  obtain ⟨_, afterPadding, _, read⟩ := bind_eq_ok_iff.mp read
  obtain ⟨index, afterIndex, _, read⟩ := bind_eq_ok_iff.mp read
  intro text present
  cases type with
  | named name =>
      obtain rfl := List.mem_singleton.mp present
      by_cases unnamed : index = noName
      · rw [if_pos unnamed] at read
        obtain ⟨carried, middle, none, read⟩ := bind_eq_ok_iff.mp read
        obtain ⟨rfl, _⟩ := pure_eq_ok_iff.mp none
        have carries := name_eq_of_ofCode? (ByteReader.require_eq_ok_iff.mp read).1
        simp at carries
      · rw [if_neg unnamed] at read
        obtain ⟨carried, middle, looked, read⟩ := bind_eq_ok_iff.mp read
        have carries := name_eq_of_ofCode? (ByteReader.require_eq_ok_iff.mp read).1
        obtain ⟨name, found, same⟩ := map_eq_ok_iff.mp looked
        rw [carries, Option.some.injEq] at same
        exact same ▸ StringPool.holds_of_reader found
  | void => simp [texts] at present
  | boolean => simp [texts] at present
  | int => simp [texts] at present
  | long => simp [texts] at present
  | double => simp [texts] at present
  | string => simp [texts] at present

theorem Field.holds_of_read
    {bytes behind : Bytes}
    {field : Field}
    (read : Field.read strings bytes = .ok field behind) :
    ∀ text ∈ field.texts, strings.Holds text := by
  obtain ⟨index, _, _, read⟩ := bind_eq_ok_iff.mp read
  obtain ⟨name, _, looked, read⟩ := bind_eq_ok_iff.mp read
  obtain ⟨visibility, _, _, read⟩ := bind_eq_ok_iff.mp read
  obtain ⟨_, _, _, read⟩ := bind_eq_ok_iff.mp read
  obtain ⟨type, _, readType, read⟩ := bind_eq_ok_iff.mp read
  obtain ⟨rfl, _⟩ := pure_eq_ok_iff.mp read
  exact forall_mem_texts.mpr
    ⟨StringPool.holds_of_reader looked, ValueType.holds_of_read readType⟩

/-! ## Members -/

/-- What reading tells of a member: the pool holds its texts, and its parameters are not too many. -/
structure Member.IsReadable (strings : StringPool) (member : Member) : Prop where
  /-- The pool holds the name and the names of the types. -/
  holds : ∀ text ∈ member.texts, strings.Holds text
  /-- A byte counts the parameters. -/
  narrow : member.parameters.length ≤ 255

namespace ModuleImage

theorem ofTable_eq_ok_iff
    {reader : ByteReader Item}
    {bytes behind : Bytes}
    {item : Item} :
    ofTable reader bytes = .ok item behind ↔ reader bytes = .ok item behind := by
  unfold ofTable
  cases reader bytes <;> simp

theorem on_eq_ok_iff
    {reader : PartReader Item}
    {bytes : Bytes}
    {item : Item} :
    reader.on bytes = .ok item ↔ ∃ behind, reader bytes = .ok item behind := by
  unfold PartReader.on
  cases reader bytes <;> simp

theorem isReadable_of_readMember
    {codeData bytes behind : Bytes}
    {member : Member}
    (read : readMember strings codeData bytes = .ok member behind) :
    member.IsReadable strings := by
  obtain ⟨name, _, readName, read⟩ := bind_eq_ok_iff.mp read
  obtain ⟨result, _, readResult, read⟩ := bind_eq_ok_iff.mp read
  obtain ⟨count, _, _, read⟩ := bind_eq_ok_iff.mp read
  obtain ⟨offset, _, _, read⟩ := bind_eq_ok_iff.mp read
  obtain ⟨size, middle, _, read⟩ := bind_eq_ok_iff.mp read
  by_cases tooMany : 255 < count.toNat
  · rw [if_pos tooMany] at read
    obtain ⟨_, _, impossible, _⟩ := bind_eq_ok_iff.mp read
    nomatch impossible
  · rw [if_neg tooMany] at read
    obtain ⟨parameters, _, readParameters, read⟩ := bind_eq_ok_iff.mp read
    obtain ⟨code, _, _, read⟩ := bind_eq_ok_iff.mp read
    obtain ⟨rfl, _⟩ := pure_eq_ok_iff.mp read
    have many := ofTable_eq_ok_iff.mp readParameters
    constructor
    · refine Member.forall_mem_texts.mpr ⟨?_, ?_, ?_⟩
      · exact StringPool.holds_of_readText (ofTable_eq_ok_iff.mp readName)
      · exact ValueType.holds_of_read (ofTable_eq_ok_iff.mp readResult)
      · exact ByteReader.forall_mem_of_times (fun _ _ _ => ValueType.holds_of_read) many
    · have length := ByteReader.length_of_times many
      change parameters.length ≤ 255
      omega

theorem isReadable_of_readMembers
    {codeData bytes behind : Bytes}
    {count : Nat}
    {members : List Member}
    (read : readMembers strings codeData count bytes = .ok members behind) :
    ∀ member ∈ members, member.IsReadable strings := by
  induction count generalizing bytes behind members with
  | zero =>
      obtain ⟨rfl, _⟩ := pure_eq_ok_iff.mp read
      simp
  | succ count inductionHypothesis =>
      obtain ⟨first, _, readFirst, read⟩ := bind_eq_ok_iff.mp read
      obtain ⟨later, _, readLater, read⟩ := bind_eq_ok_iff.mp read
      obtain ⟨rfl, _⟩ := pure_eq_ok_iff.mp read
      exact List.forall_mem_cons.mpr
        ⟨isReadable_of_readMember readFirst, inductionHypothesis readLater⟩

theorem isReadable_of_readMemberTable
    {codeData bytes : Bytes}
    {members : List Member}
    (read : (readMemberTable strings codeData).on bytes = .ok members) :
    ∀ member ∈ members, member.IsReadable strings := by
  obtain ⟨behind, read⟩ := on_eq_ok_iff.mp read
  obtain ⟨count, _, _, read⟩ := bind_eq_ok_iff.mp read
  obtain ⟨found, _, readMembers, read⟩ := bind_eq_ok_iff.mp read
  obtain ⟨_, _, _, read⟩ := bind_eq_ok_iff.mp read
  obtain ⟨rfl, _⟩ := pure_eq_ok_iff.mp read
  exact isReadable_of_readMembers readMembers

/-! ## The whole image -/

theorem holds_of_readInfo
    {bytes : Bytes}
    {info : Info}
    (read : (Info.read strings).on bytes = .ok info) :
    strings.Holds info.name := by
  obtain ⟨behind, read⟩ := ByteReader.on_eq_ok_iff.mp read
  obtain ⟨index, _, _, read⟩ := bind_eq_ok_iff.mp read
  obtain ⟨name, _, looked, read⟩ := bind_eq_ok_iff.mp read
  obtain ⟨fieldCount, _, _, read⟩ := bind_eq_ok_iff.mp read
  obtain ⟨methodCount, _, _, read⟩ := bind_eq_ok_iff.mp read
  obtain ⟨flags, _, _, read⟩ := bind_eq_ok_iff.mp read
  obtain ⟨_, _, _, read⟩ := bind_eq_ok_iff.mp read
  obtain ⟨rfl, _⟩ := pure_eq_ok_iff.mp read
  exact StringPool.holds_of_reader looked

theorem holds_of_readFields
    {bytes : Bytes}
    {count : Nat}
    {fields : List Field}
    (read : (readAll (Field.read strings) count).on bytes = .ok fields) :
    ∀ field ∈ fields, ∀ text ∈ field.texts, strings.Holds text := by
  obtain ⟨behind, read⟩ := ByteReader.on_eq_ok_iff.mp read
  obtain ⟨found, _, readFields, read⟩ := bind_eq_ok_iff.mp read
  obtain ⟨_, _, _, read⟩ := bind_eq_ok_iff.mp read
  obtain ⟨rfl, _⟩ := pure_eq_ok_iff.mp read
  exact ByteReader.forall_mem_of_times (fun _ _ _ => Field.holds_of_read) readFields

/-- What reading tells of an image. -/
structure IsReadable (image : ModuleImage) : Prop where
  /-- The pool holds all names. -/
  closed : image.IsClosed
  /-- The code of all members is sound. -/
  sound : image.IsSound
  /-- No member has more than 255 parameters. -/
  narrow : ∀ member ∈ image.members, member.parameters.length ≤ 255

theorem isReadable_of_decode
    {bytes : Bytes}
    {image : ModuleImage}
    (decoded : decode bytes = .ok image) :
    image.IsReadable := by
  obtain ⟨container, _, decoded⟩ := Outcome.bind_eq_ok_iff.mp decoded
  obtain ⟨poolBytes, _, decoded⟩ := Outcome.bind_eq_ok_iff.mp decoded
  obtain ⟨strings, _, decoded⟩ := Outcome.bind_eq_ok_iff.mp decoded
  obtain ⟨infoBytes, _, decoded⟩ := Outcome.bind_eq_ok_iff.mp decoded
  obtain ⟨info, readInfo, decoded⟩ := Outcome.bind_eq_ok_iff.mp decoded
  obtain ⟨fieldBytes, _, decoded⟩ := Outcome.bind_eq_ok_iff.mp decoded
  obtain ⟨fields, readFields, decoded⟩ := Outcome.bind_eq_ok_iff.mp decoded
  obtain ⟨codeData, _, decoded⟩ := Outcome.bind_eq_ok_iff.mp decoded
  obtain ⟨constructorBytes, _, decoded⟩ := Outcome.bind_eq_ok_iff.mp decoded
  obtain ⟨constructors, readConstructors, decoded⟩ := Outcome.bind_eq_ok_iff.mp decoded
  obtain ⟨methodBytes, _, decoded⟩ := Outcome.bind_eq_ok_iff.mp decoded
  obtain ⟨methods, readMethods, decoded⟩ := Outcome.bind_eq_ok_iff.mp decoded
  have heldName := holds_of_readInfo (Outcome.mapError_eq_ok_iff.mp readInfo)
  have heldFields := holds_of_readFields (Outcome.mapError_eq_ok_iff.mp readFields)
  have readableConstructors := isReadable_of_readMemberTable readConstructors
  have readableMethods := isReadable_of_readMemberTable readMethods
  match constructors, readableConstructors, decoded with
  | [constructor], readableConstructors, decoded =>
      dsimp only at decoded
      by_cases differ : methods.length ≠ info.methodCount
      · rw [if_pos differ] at decoded
        nomatch decoded
      rw [if_neg differ] at decoded
      obtain ⟨_, verified, decoded⟩ := Outcome.bind_eq_ok_iff.mp decoded
      obtain rfl := Except.ok.inj decoded
      have readable : ∀ member ∈ constructor :: methods, member.IsReadable strings :=
        List.forall_mem_cons.mpr
          ⟨List.forall_mem_singleton.mp readableConstructors, readableMethods⟩
      constructor
      · refine isClosed_iff.mpr ⟨heldName, heldFields, ?_⟩
        intro member present
        exact (readable member present).holds
      · exact (verify_eq_ok_iff _).mp verified
      · intro member present
        exact (readable member present).narrow
  | [], _, impossible => nomatch impossible
  | _ :: _ :: _, _, impossible => nomatch impossible

end ModuleImage
end LateBinding
