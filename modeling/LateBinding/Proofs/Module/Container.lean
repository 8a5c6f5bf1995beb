import LateBinding.Module.Container
import LateBinding.Proofs.Bytes.Reading
import Mathlib.Data.List.Forall2
import Mathlib.Data.List.Induction

/-!
# Reading a written container

While a container is written, each section stands in the body at the place that its directory entry
tells, and adding to the body never moves it.  The finished bytes are read back as a container in
which every kind has the content of its first section.
-/

namespace LateBinding

/-! ## Headers and directories -/

/-- The bytes of a header are read as the header. -/
theorem Header.reads (header : Header) : Reads Header.read header.encode header := by
  obtain ⟨⟨⟨magic⟩, four⟩, major, minor, patch, flags, sectionCount, start, size⟩ := header
  obtain ⟨magic0, magic1, magic2, magic3, rfl⟩ :
      ∃ magic0 magic1 magic2 magic3, magic = [magic0, magic1, magic2, magic3] := by
    match magic, four with
    | [magic0, magic1, magic2, magic3], _ => exact ⟨magic0, magic1, magic2, magic3, rfl⟩
  have bytes : Header.encode ⟨⟨⟨[magic0, magic1, magic2, magic3]⟩, four⟩, major, minor, patch, flags,
        sectionCount, start, size⟩ =
      [magic0] ++ ([magic1] ++ ([magic2] ++ ([magic3] ++ ([major] ++ ([minor] ++ ([patch] ++
        ([0] ++ (Bytes.ofWord32 flags ++ (Bytes.ofWord16 sectionCount ++ ([0, 0] ++
          (Bytes.ofWord32 start ++ (Bytes.ofWord32 size ++ List.replicate 8 0)))))))))))) := by
    rfl
  rw [bytes]
  refine (ByteReader.reads_byte magic0).bind ?_
  refine (ByteReader.reads_byte magic1).bind ?_
  refine (ByteReader.reads_byte magic2).bind ?_
  refine (ByteReader.reads_byte magic3).bind ?_
  refine (ByteReader.reads_byte major).bind ?_
  refine (ByteReader.reads_byte minor).bind ?_
  refine (ByteReader.reads_byte patch).bind ?_
  refine (ByteReader.reads_skip [0]).bind ?_
  refine (ByteReader.reads_word32 flags).bind ?_
  refine (ByteReader.reads_word16 sectionCount).bind ?_
  refine (ByteReader.reads_skip [0, 0]).bind ?_
  refine (ByteReader.reads_word32 start).bind ?_
  refine (ByteReader.reads_word32 size).bind ?_
  exact (ByteReader.reads_skip (List.replicate 8 0)).bind_pure _

theorem Header.decode_encode_append
    (header : Header)
    (behind : Bytes) :
    Header.decode (header.encode ++ behind) = .ok header := by
  rw [Header.decode, ByteReader.on_eq_ok_iff.mpr ⟨_, header.reads behind⟩]

@[simp] theorem Header.validate_current
    (sectionCount : UInt16)
    (start size : UInt32) :
    (Header.current sectionCount start size).validate = .ok () := rfl

/-- The bytes of a directory entry are read as the entry. -/
theorem SectionEntry.reads (entry : SectionEntry) :
    Reads SectionEntry.read entry.encode entry := by
  obtain ⟨kind, padding, flags, offset, size, reserved⟩ := entry
  have bytes : SectionEntry.encode ⟨kind, padding, flags, offset, size, reserved⟩ =
      [kind.code] ++ ([padding] ++ (Bytes.ofWord16 flags ++ (Bytes.ofWord32 offset ++
        (Bytes.ofWord32 size ++ (Bytes.ofWord32 reserved ++ []))))) := by
    rfl
  rw [bytes]
  refine (ByteReader.reads_byte kind.code).bind ?_
  refine (ByteReader.reads_byte padding).bind ?_
  refine (ByteReader.reads_word16 flags).bind ?_
  refine (ByteReader.reads_word32 offset).bind ?_
  refine (ByteReader.reads_word32 size).bind ?_
  refine (ByteReader.reads_word32 reserved).bind ?_
  exact (ByteReader.reads_require (SectionKind.ofCode?_code kind)).bind_pure _

@[simp] theorem SectionDirectory.length_encode (directory : SectionDirectory) :
    directory.encode.length = directory.byteSize := by
  rw [encode, byteSize, List.length_flatMap]
  simp [List.map_const']

/-- A directory is read back from its bytes. -/
theorem SectionDirectory.decode_encode (directory : SectionDirectory) :
    SectionDirectory.decode directory.encode = .ok directory := by
  have whole : directory.byteSize % SectionEntry.byteSize = 0 := Nat.mul_mod_left _ _
  have count : directory.byteSize / SectionEntry.byteSize = directory.length :=
    Nat.mul_div_cancel _ (by decide)
  rw [decode, length_encode, if_neg (by simp [whole]), count]
  exact ByteReader.on_eq_ok_iff.mpr
    ⟨_, (ByteReader.reads_times fun entry _ => SectionEntry.reads entry).toAll⟩

/-! ## Writing sections -/

/-- A section: its kind and its bytes. -/
abbrev Section :=
  SectionKind × Bytes

/-- A section stands in the body of a container at the place that an entry tells. -/
def StandsAt (body : Bytes) (entry : SectionEntry) (content : Section) : Prop :=
  ∃ front behind, body = front ++ content.2 ++ behind ∧
    entry = SectionEntry.of content.1
      (UInt32.ofNat (Header.byteSize + front.length)) (UInt32.ofNat content.2.length)

/-- Bytes that are put behind a body leave its sections where they are. -/
theorem StandsAt.append
    {body : Bytes}
    {entry : SectionEntry}
    {content : Section}
    (stands : StandsAt body entry content)
    (more : Bytes) :
    StandsAt (body ++ more) entry content := by
  obtain ⟨front, behind, equal, told⟩ := stands
  exact ⟨front, behind ++ more, by rw [equal, List.append_assoc (front ++ content.2)], told⟩

namespace ContainerWriter

/-- A writer holds sections when its entries tell their places in the order of their writing. -/
def Holds (writer : ContainerWriter) (sections : List Section) : Prop :=
  List.Forall₂ (StandsAt writer.body) writer.directory sections

theorem holds_empty : empty.Holds [] :=
  List.Forall₂.nil

theorem Holds.length_directory
    {writer : ContainerWriter}
    {sections : List Section}
    (holds : writer.Holds sections) :
    writer.directory.length = sections.length :=
  List.Forall₂.length_eq holds

/-- Padding leaves the sections where they are. -/
theorem Holds.align
    {writer : ContainerWriter}
    {sections : List Section}
    (holds : writer.Holds sections)
    (alignment : Nat) :
    (writer.align alignment).Holds sections :=
  List.Forall₂.imp (fun _ _ stands => stands.append _) holds

/-- A section that is added stands behind the others. -/
theorem Holds.addSection
    {writer : ContainerWriter}
    {sections : List Section}
    (holds : writer.Holds sections)
    (kind : SectionKind)
    (content : Bytes) :
    (writer.addSection kind content).2.Holds (sections ++ [(kind, content)]) := by
  have earlier := List.Forall₂.imp (fun _ _ stands => StandsAt.append stands content)
    (holds.align 8)
  have last : StandsAt ((writer.align 8).body ++ content)
      (SectionEntry.of kind (UInt32.ofNat (writer.align 8).offset) (UInt32.ofNat content.length))
      (kind, content) :=
    ⟨(writer.align 8).body, [], by rw [List.append_nil], rfl⟩
  exact List.rel_append earlier (List.Forall₂.cons last List.Forall₂.nil)

theorem holds_ofSections (sections : List Section) : (ofSections sections).Holds sections := by
  induction sections using List.reverseRecOn with
  | nil => exact holds_empty
  | append_singleton earlier content inductionHypothesis =>
      rw [ofSections, List.foldl_append]
      exact inductionHypothesis.addSection content.1 content.2

/-! ## Reading the finished bytes -/

/-- What is read back from the finished bytes of a writer. -/
def container (writer : ContainerWriter) : Container where
  bytes := writer.finish
  header := Header.current (UInt16.ofNat writer.directory.length)
    (UInt32.ofNat (writer.align 8).offset) (UInt32.ofNat writer.directory.byteSize)
  directory := writer.directory

theorem finish_eq (writer : ContainerWriter) :
    writer.finish =
      writer.container.header.encode ++ (writer.align 8).body ++ writer.directory.encode := rfl

theorem length_finish (writer : ContainerWriter) :
    writer.finish.length = (writer.align 8).offset + writer.directory.byteSize := by
  rw [finish_eq, List.length_append, List.length_append, Header.length_encode,
    SectionDirectory.length_encode, offset]

/-- The first section of a kind is the one that the first entry of the kind tells. -/
theorem find?_of_forall₂
    {body : Bytes}
    {directory : SectionDirectory}
    {sections : List Section}
    (holds : List.Forall₂ (StandsAt body) directory sections)
    (kind : SectionKind) :
    match sections.lookup kind with
    | none => directory.find? kind = none
    | some content => ∃ entry, directory.find? kind = some entry ∧
        StandsAt body entry (kind, content) := by
  induction holds with
  | nil => rfl
  | @cons entry content directory sections stands _ inductionHypothesis =>
      obtain ⟨same, bytes⟩ := content
      have entryKind : entry.kind = same := by
        obtain ⟨front, behind, _, rfl⟩ := stands
        rfl
      rw [List.lookup_cons, SectionDirectory.find?, List.find?_cons, entryKind]
      by_cases found : same = kind
      · subst found
        simpa using stands
      · have missed : (kind == same) = false := by simpa using Ne.symm found
        simp only [missed, found, decide_false]
        exact inductionHypothesis

/-- In short finished bytes no offset and no size wraps. -/
structure Fits (writer : ContainerWriter) (sections : List Section) : Prop where
  /-- The sections are held. -/
  holds : writer.Holds sections
  /-- The number of sections is a word of 16 bits. -/
  few : sections.length < 2 ^ 16
  /-- The number of bytes is a word of 32 bits. -/
  short : writer.finish.length < 2 ^ 32

namespace Fits

variable {writer : ContainerWriter} {sections : List Section}

theorem offset_add_byteSize_lt (fits : writer.Fits sections) :
    (writer.align 8).offset + writer.directory.byteSize < 2 ^ 32 := by
  rw [← length_finish]
  exact fits.short

theorem toNat_directoryOffset (fits : writer.Fits sections) :
    writer.container.header.directoryOffset.toNat = (writer.align 8).offset := by
  have bound := fits.offset_add_byteSize_lt
  change (UInt32.ofNat (writer.align 8).offset).toNat = _
  exact Bytes.toNat_ofNat32 (by omega)

theorem toNat_directorySize (fits : writer.Fits sections) :
    writer.container.header.directorySize.toNat = writer.directory.byteSize := by
  have bound := fits.offset_add_byteSize_lt
  change (UInt32.ofNat writer.directory.byteSize).toNat = _
  exact Bytes.toNat_ofNat32 (by omega)

theorem toNat_sectionCount (fits : writer.Fits sections) :
    writer.container.header.sectionCount.toNat = writer.directory.length := by
  have few := fits.few
  rw [← fits.holds.length_directory] at few
  change (UInt16.ofNat writer.directory.length).toNat = _
  exact Bytes.toNat_ofNat16 few

/-- The directory is what stands at its offset. -/
theorem slice?_directory (fits : writer.Fits sections) :
    Bytes.slice? writer.finish writer.container.header.directoryOffset.toNat
      writer.container.header.directorySize.toNat = some writer.directory.encode := by
  have inside : (writer.align 8).offset + writer.directory.byteSize ≤ writer.finish.length :=
    Nat.le_of_eq writer.length_finish.symm
  have front : (writer.container.header.encode ++ (writer.align 8).body).length =
      (writer.align 8).offset := by
    rw [List.length_append, Header.length_encode, offset]
  rw [fits.toNat_directoryOffset, fits.toNat_directorySize, Bytes.slice?, if_pos inside, finish_eq,
    ← front, List.drop_left, ← SectionDirectory.length_encode, List.take_length]

/-- The bytes of a section are what stands at the offset of its entry. -/
theorem slice?_of_standsAt
    (fits : writer.Fits sections)
    {entry : SectionEntry}
    {content : Section}
    (stands : StandsAt (writer.align 8).body entry content) :
    entry.finish ≤ (writer.align 8).offset ∧
      Bytes.slice? writer.finish entry.offset.toNat entry.size.toNat = some content.2 := by
  obtain ⟨front, behind, body, rfl⟩ := stands
  have bound := fits.offset_add_byteSize_lt
  have bodyLength : (writer.align 8).offset =
      Header.byteSize + front.length + content.2.length + behind.length := by
    rw [offset, body, List.length_append, List.length_append]
    omega
  have offsetEqual : (SectionEntry.of content.1 (UInt32.ofNat (Header.byteSize + front.length))
      (UInt32.ofNat content.2.length)).offset.toNat = Header.byteSize + front.length := by
    change (UInt32.ofNat (Header.byteSize + front.length)).toNat = _
    exact Bytes.toNat_ofNat32 (by omega)
  have sizeEqual : (SectionEntry.of content.1 (UInt32.ofNat (Header.byteSize + front.length))
      (UInt32.ofNat content.2.length)).size.toNat = content.2.length := by
    change (UInt32.ofNat content.2.length).toNat = _
    exact Bytes.toNat_ofNat32 (by omega)
  have inside : Header.byteSize + front.length + content.2.length ≤ writer.finish.length := by
    rw [length_finish]
    omega
  have split : writer.finish = (writer.container.header.encode ++ front) ++
      (content.2 ++ (behind ++ writer.directory.encode)) := by
    rw [finish_eq, body]
    simp only [List.append_assoc]
  have frontLength : Header.byteSize + front.length =
      (writer.container.header.encode ++ front).length := by
    rw [List.length_append, Header.length_encode]
  refine ⟨?_, ?_⟩
  · rw [SectionEntry.finish, offsetEqual, sizeEqual]
    omega
  · rw [offsetEqual, sizeEqual, Bytes.slice?, if_pos inside, split, frontLength, List.drop_left,
      List.take_left]

/-- A section is no longer than the finished bytes. -/
theorem length_lt
    (fits : writer.Fits sections)
    {content : Section}
    (present : content ∈ sections) :
    content.2.length < 2 ^ 32 := by
  obtain ⟨index, bound, rfl⟩ := List.getElem_of_mem present
  obtain ⟨front, behind, body, _⟩ := List.Forall₂.get (fits.holds.align 8)
    (fits.holds.length_directory ▸ bound) bound
  have whole := fits.offset_add_byteSize_lt
  have bodyLength := congrArg List.length body
  simp only [List.length_append, List.get_eq_getElem] at bodyLength
  rw [offset] at whole
  omega

/-- No section reaches into the directory. -/
theorem finish_le
    (fits : writer.Fits sections)
    {entry : SectionEntry}
    (present : entry ∈ writer.directory) :
    entry.finish ≤ (writer.align 8).offset := by
  obtain ⟨index, bound, rfl⟩ := List.getElem_of_mem present
  have stands := List.Forall₂.get (fits.holds.align 8) bound
    (fits.holds.length_directory ▸ bound)
  exact (fits.slice?_of_standsAt stands).1

/-- The finished bytes are a container. -/
theorem decode_finish (fits : writer.Fits sections) :
    Container.decode writer.finish = .ok writer.container := by
  have bound := fits.offset_add_byteSize_lt
  have enough : ¬ writer.finish.length < Header.byteSize := by
    rw [length_finish, offset]
    omega
  have header : Header.decode writer.finish = .ok writer.container.header := by
    rw [finish_eq, List.append_assoc]
    exact Header.decode_encode_append _ _
  have behindHeader : ¬ writer.container.header.directoryOffset.toNat < Header.byteSize := by
    rw [fits.toNat_directoryOffset, offset]
    omega
  have whole : (writer.directory.any fun entry =>
      writer.container.header.directoryOffset.toNat < entry.finish) = false := by
    rw [List.any_eq_false]
    intro entry present
    have inside := fits.finish_le present
    rw [fits.toNat_directoryOffset]
    simp only [decide_eq_true_eq]
    omega
  have valid : writer.container.header.validate = .ok () := Header.validate_current _ _ _
  have counted :
      ¬ writer.directory.length ≠ writer.container.header.sectionCount.toNat := by
    rw [fits.toNat_sectionCount]
    simp
  rw [Container.decode, if_neg enough, header]
  simp only [Except.mapError, bind, Except.bind, valid, if_neg behindHeader,
    fits.slice?_directory, SectionDirectory.decode_encode, if_neg counted, whole,
    Bool.false_eq_true, if_false]
  rfl

/-- Every kind has the content of its first section. -/
theorem read_container
    (fits : writer.Fits sections)
    (kind : SectionKind) :
    writer.container.read kind =
      match sections.lookup kind with
      | none => .error (.sectionNotFound kind)
      | some content => .ok content := by
  have first := find?_of_forall₂ (fits.holds.align 8) kind
  rw [Container.read]
  cases found : sections.lookup kind with
  | none =>
      rw [found] at first
      have missing : writer.container.directory.find? kind = none := first
      rw [missing]
  | some content =>
      rw [found] at first
      obtain ⟨entry, there, stands⟩ := first
      have present : writer.container.directory.find? kind = some entry := there
      have bytes : Bytes.slice? writer.container.bytes entry.offset.toNat entry.size.toNat =
          some content := (fits.slice?_of_standsAt stands).2
      rw [present]
      simp only [bytes]

end Fits
end ContainerWriter
end LateBinding
