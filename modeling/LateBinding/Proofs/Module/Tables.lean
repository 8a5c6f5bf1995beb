import LateBinding.Proofs.Module.Code
import LateBinding.Proofs.Module.Pooled

/-!
# Reading the tables of a module

Types, fields and members are read back from the bytes that were written for them, when the pool that
they are read with holds all their texts.  A member finds its code at the offset that its entry tells,
because the code of members lies one after the other in the order of the tables.
-/

namespace LateBinding

/-- A pool whose indices are words and not the number that stands for no name. -/
def StringPool.IsSmall (pool : StringPool) : Prop :=
  pool.size < 2 ^ 32

variable {strings : StringPool}

namespace StringPool

/-- The index of a text that is held is read as the text. -/
theorem reads_reader
    (small : strings.IsSmall)
    {text : String}
    (holds : strings.Holds text) :
    Reads (strings.reader (strings.add text).1) [] text :=
  ByteReader.reads_require (get?_add_of_holds holds (Nat.le_of_lt small))

/-- The index of a text that is held does not stand for no name. -/
theorem add_ne_noName
    (small : strings.IsSmall)
    {text : String}
    (holds : strings.Holds text) :
    (strings.add text).1 ≠ noName := by
  have found := get?_add_of_holds holds (Nat.le_of_lt small)
  have inside := lt_size_of_get? found
  intro equal
  rw [equal] at inside
  have largest : noName.toNat = 2 ^ 32 - 1 := rfl
  unfold IsSmall at small
  omega

end StringPool

/-! ## Types and fields -/

/-- The word for the name of a type, as it stands in the bytes of the type. -/
def ValueType.nameIndex (strings : StringPool) : ValueType → UInt32
  | .named name => (strings.add name).1
  | _ => noName

theorem ValueType.encode_run (type : ValueType) (strings : StringPool) :
    (type.encode strings).1 =
      [type.code] ++ ([0, 0, 0] ++ Bytes.ofWord32 (type.nameIndex strings)) := by
  cases type <;> rfl

/-- The bytes of a type are read as the type. -/
theorem ValueType.reads
    (small : strings.IsSmall)
    {type : ValueType}
    (holds : ∀ text ∈ type.texts, strings.Holds text) :
    Reads (ValueType.read strings) (type.encode strings).1 type := by
  rw [type.encode_run]
  refine (ByteReader.reads_byte type.code).bind ?_
  refine (ByteReader.reads_skip [0, 0, 0]).bind ?_
  refine (ByteReader.reads_word32 (type.nameIndex strings)).bind_last ?_
  cases type with
  | named name =>
      have held : strings.Holds name := holds name (List.mem_singleton.mpr rfl)
      have different := StringPool.add_ne_noName small held
      change Reads (if (strings.add name).1 = noName then _ else _) [] _
      rw [if_neg different]
      exact ((StringPool.reads_reader small held).map some).bind_first
        (ByteReader.reads_require rfl)
  | void => exact (Reads.pure none).bind_first (ByteReader.reads_require rfl)
  | boolean => exact (Reads.pure none).bind_first (ByteReader.reads_require rfl)
  | int => exact (Reads.pure none).bind_first (ByteReader.reads_require rfl)
  | long => exact (Reads.pure none).bind_first (ByteReader.reads_require rfl)
  | double => exact (Reads.pure none).bind_first (ByteReader.reads_require rfl)
  | string => exact (Reads.pure none).bind_first (ByteReader.reads_require rfl)

@[simp] theorem ValueType.length_encode (type : ValueType) (strings : StringPool) :
    (type.encode strings).1.length = 8 := by
  rw [type.encode_run]
  rfl

/-- The bytes of a field are read as the field. -/
theorem Field.reads
    (small : strings.IsSmall)
    {field : Field}
    (holds : ∀ text ∈ field.texts, strings.Holds text) :
    Reads (Field.read strings) (field.encode strings).1 field := by
  obtain ⟨heldName, heldType⟩ := Field.forall_mem_texts.mp holds
  have bytes : (field.encode strings).1 =
      Bytes.ofWord32 (strings.add field.name).1 ++ ([field.visibility.code] ++ ([0, 0, 0] ++
        (field.type.encode (strings.add field.name).2).1)) := rfl
  rw [bytes, StringPool.snd_add_of_holds heldName]
  refine (ByteReader.reads_word32 _).bind ?_
  refine (StringPool.reads_reader small heldName).bind_first ?_
  refine (?_ : Reads _ _ field.visibility).bind ?_
  · exact (ByteReader.reads_byte _).bind_last
      (ByteReader.reads_require (Visibility.ofCode?_code field.visibility))
  · refine (ByteReader.reads_skip [0, 0, 0]).bind ?_
    exact (ValueType.reads small heldType).bind_pure _

/-! ## Members -/

/-- A reader of a table reads the same as part of a module. -/
theorem Reads.ofTable
    {reader : ByteReader Item}
    {bytes : Bytes}
    {item : Item}
    (reads : Reads reader bytes item) :
    Reads (ModuleImage.ofTable reader) bytes item := by
  intro behind
  rw [ModuleImage.ofTable, reads behind]

/-- Code is read at the offset at which it stands. -/
theorem ModuleImage.reads_codeAt
    {codeData front behind : Bytes}
    {code : Code}
    (stands : codeData = front ++ code.encode ++ behind) :
    Reads (codeAt codeData front.length code.encode.length) [] code := by
  have inside : front.length + code.encode.length ≤ codeData.length := by
    rw [stands, List.length_append, List.length_append]
    omega
  have bytes : Bytes.slice? codeData front.length code.encode.length = some code.encode := by
    rw [Bytes.slice?, if_pos inside, stands, List.append_assoc, List.drop_left, List.take_left]
  rw [codeAt, bytes]
  simp only [Code.decode_encode]
  exact Reads.pure code

/-- The bytes of a member whose texts are held, part by part. -/
theorem Member.encode_run
    {member : Member}
    (holds : ∀ text ∈ member.texts, strings.Holds text)
    (codeOffset : Nat) :
    (member.encode codeOffset strings).1 =
      Bytes.ofWord32 (strings.add member.name).1 ++ ((member.result.encode strings).1 ++
        (Bytes.ofNat32 member.parameters.length ++ (Bytes.ofNat32 codeOffset ++
          (Bytes.ofNat32 member.code.encode.length ++
            member.parameters.flatMap fun type => (type.encode strings).1)))) := by
  obtain ⟨heldName, heldResult, heldParameters⟩ := Member.forall_mem_texts.mp holds
  have afterResult : (member.result.encode strings).2 = strings :=
    member.result.encode_adds.pool_eq_of_holds heldResult
  have afterParameter : ∀ type ∈ member.parameters, (type.encode strings).2 = strings := by
    intro type present
    exact type.encode_adds.pool_eq_of_holds (heldParameters type present)
  rw [← Pooled.concat_of_fixed afterParameter]
  have run : (member.encode codeOffset strings).1 =
      Bytes.ofWord32 (strings.add member.name).1 ++
        (member.result.encode (strings.add member.name).2).1 ++
        Bytes.ofNat32 member.parameters.length ++ Bytes.ofNat32 codeOffset ++
        Bytes.ofNat32 member.code.encode.length ++
        (Pooled.concat ValueType.encode member.parameters
          (member.result.encode (strings.add member.name).2).2).1 := rfl
  rw [run, StringPool.snd_add_of_holds heldName, afterResult]
  simp only [List.append_assoc]

/-- The bytes of a member are read as the member. -/
theorem Member.reads
    (small : strings.IsSmall)
    {codeData front behind : Bytes}
    {member : Member}
    (stands : codeData = front ++ member.code.encode ++ behind)
    (short : codeData.length < 2 ^ 32)
    (narrow : member.parameters.length ≤ 255)
    (holds : ∀ text ∈ member.texts, strings.Holds text) :
    Reads (ModuleImage.readMember strings codeData)
      (member.encode front.length strings).1 member := by
  obtain ⟨heldName, heldResult, heldParameters⟩ := Member.forall_mem_texts.mp holds
  have count : (UInt32.ofNat member.parameters.length).toNat = member.parameters.length :=
    Bytes.toNat_ofNat32 (by omega)
  have widths : codeData.length =
      front.length + member.code.encode.length + behind.length := by
    rw [stands, List.length_append, List.length_append]
  have start : (UInt32.ofNat front.length).toNat = front.length :=
    Bytes.toNat_ofNat32 (by omega)
  have size : (UInt32.ofNat member.code.encode.length).toNat = member.code.encode.length :=
    Bytes.toNat_ofNat32 (by omega)
  rw [Member.encode_run holds]
  refine (?_ : Reads _ _ member.name).ofTable.bind ?_
  · exact (ByteReader.reads_word32 _).bind_last (StringPool.reads_reader small heldName)
  refine (ValueType.reads small heldResult).ofTable.bind ?_
  refine (ByteReader.reads_ofNat32 _).ofTable.bind ?_
  refine (ByteReader.reads_ofNat32 _).ofTable.bind ?_
  refine (ByteReader.reads_ofNat32 _).ofTable.bind ?_
  rw [count, start, size]
  simp only [if_neg (Nat.not_lt.mpr narrow)]
  have parameters : Reads ((ValueType.read strings).times member.parameters.length)
      (member.parameters.flatMap fun type => (type.encode strings).1) member.parameters :=
    ByteReader.reads_times fun type present => ValueType.reads small (heldParameters type present)
  refine parameters.ofTable.bind_last ?_
  exact (ModuleImage.reads_codeAt stands).bind_pure _

/-- The bytes of members whose code lies one after the other are read as the members. -/
theorem Member.reads_members
    (small : strings.IsSmall)
    {codeData front behind : Bytes}
    {members : List Member}
    (stands : codeData = front ++ Member.codeOf members ++ behind)
    (short : codeData.length < 2 ^ 32)
    (narrow : ∀ member ∈ members, member.parameters.length ≤ 255)
    (holds : ∀ member ∈ members, ∀ text ∈ member.texts, strings.Holds text) :
    Reads (ModuleImage.readMembers strings codeData members.length)
      (Member.encodeFrom front.length members strings).1 members := by
  induction members generalizing front with
  | nil => exact Reads.pure []
  | cons member rest inductionHypothesis =>
      obtain ⟨heldFirst, heldLater⟩ := List.forall_mem_cons.mp holds
      obtain ⟨narrowFirst, narrowLater⟩ := List.forall_mem_cons.mp narrow
      have unchanged : (member.encode front.length strings).2 = strings :=
        (member.encode_adds front.length).pool_eq_of_holds heldFirst
      have run : (Member.encodeFrom front.length (member :: rest) strings).1 =
          (member.encode front.length strings).1 ++
            (Member.encodeFrom (front.length + member.code.encode.length) rest
              (member.encode front.length strings).2).1 := rfl
      have firstStands : codeData =
          front ++ member.code.encode ++ (Member.codeOf rest ++ behind) := by
        rw [stands]
        simp only [Member.codeOf, List.flatMap_cons, List.append_assoc]
      have restStands : codeData =
          (front ++ member.code.encode) ++ Member.codeOf rest ++ behind := by
        rw [firstStands]
        simp only [List.append_assoc]
      have first := Member.reads small firstStands short narrowFirst heldFirst
      have later := inductionHypothesis restStands narrowLater heldLater
      rw [List.length_append] at later
      rw [run, unchanged]
      exact first.bind (later.bind_pure _)

end LateBinding
