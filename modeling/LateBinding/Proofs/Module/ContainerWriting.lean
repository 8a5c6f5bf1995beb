import LateBinding.Proofs.Module.Container

/-!
# Containers written in any order of calls

A writer is called to align and to add sections, in any order and any number.  Through all calls the
sections lie one behind the other, each at a multiple of eight, and the directory tells the offsets that
were returned.  So the finished bytes are read back as these sections, and bytes that are cut short are
refused.
-/

namespace LateBinding

/-- A section as it was added, with the offset that was returned for it. -/
structure PlacedSection where
  /-- The offset of the first byte. -/
  offset : Nat
  /-- The kind. -/
  kind : SectionKind
  /-- The bytes. -/
  content : Bytes

namespace PlacedSection

/-- The offset behind the last byte. -/
def finish (placed : PlacedSection) : Nat :=
  placed.offset + placed.content.length

/-- The section without its place. -/
def toSection (placed : PlacedSection) : Section :=
  (placed.kind, placed.content)

/-- The entry of the section in the directory. -/
def entry (placed : PlacedSection) : SectionEntry :=
  .of placed.kind (UInt32.ofNat placed.offset) (UInt32.ofNat placed.content.length)

end PlacedSection

/-- A call of a writer. -/
inductive WriterCall where
  /-- Adds zeros up to the next multiple of a positive number. -/
  | align (alignment : Nat) (positive : 0 < alignment)
  /-- Adds a section. -/
  | addSection (kind : SectionKind) (content : Bytes)

/-- A writer with the sections that were added to it so far. -/
structure WriterRun where
  /-- The writer. -/
  writer : ContainerWriter
  /-- The sections in the order of their calls. -/
  placed : List PlacedSection

namespace WriterRun

/-- The new writer. -/
def start : WriterRun :=
  ⟨.empty, []⟩

/-- One call, with the offset that it returns. -/
def call (run : WriterRun) : WriterCall → WriterRun
  | .align alignment _ => { run with writer := run.writer.align alignment }
  | .addSection kind content =>
      let (offset, writer) := run.writer.addSection kind content
      { writer := writer, placed := run.placed ++ [⟨offset, kind, content⟩] }

/-- Calls on the new writer. -/
def ofCalls (calls : List WriterCall) : WriterRun :=
  calls.foldl call start

/-- The sections of a run are held by its writer one behind the other, each at a multiple of eight. -/
structure IsLaidOut (run : WriterRun) : Prop where
  /-- The writer holds the sections. -/
  holds : run.writer.Holds (run.placed.map PlacedSection.toSection)
  /-- The directory tells the offsets that were returned. -/
  directory_eq : run.writer.directory = run.placed.map PlacedSection.entry
  /-- The sections start behind the header at multiples of eight. -/
  starts : ∀ placed ∈ run.placed, 8 ∣ placed.offset ∧ Header.byteSize ≤ placed.offset
  /-- The sections end in front of what is written next. -/
  ends : ∀ placed ∈ run.placed, placed.finish ≤ run.writer.offset
  /-- No section starts in front of the end of an earlier one. -/
  apart : run.placed.Pairwise fun earlier later => earlier.finish ≤ later.offset

end WriterRun

/-! ## What alignment does to the offset -/

namespace ContainerWriter

variable (writer : ContainerWriter)

theorem offset_align (alignment : Nat) :
    (writer.align alignment).offset = writer.offset + paddingTo alignment writer.offset := by
  rw [align, offset, List.length_append, List.length_replicate, ← Nat.add_assoc]
  rfl

theorem offset_le_offset_align (alignment : Nat) : writer.offset ≤ (writer.align alignment).offset := by
  rw [offset_align]
  exact Nat.le_add_right _ _

theorem dvd_offset_align {alignment : Nat} (positive : 0 < alignment) :
    alignment ∣ (writer.align alignment).offset := by
  rw [offset_align, paddingTo]
  split
  · next whole => exact Nat.dvd_of_mod_eq_zero whole
  · have below := Nat.mod_lt writer.offset positive
    have parts := Nat.div_add_mod writer.offset alignment
    refine ⟨writer.offset / alignment + 1, ?_⟩
    rw [Nat.mul_add, Nat.mul_one]
    omega

theorem byteSize_le_offset : Header.byteSize ≤ writer.offset :=
  Nat.le_add_right _ _

theorem offset_addSection (kind : SectionKind) (content : Bytes) :
    (writer.addSection kind content).2.offset = (writer.align 8).offset + content.length := by
  rw [addSection, offset, List.length_append, ← Nat.add_assoc]
  rfl

end ContainerWriter

/-! ## All calls lay the sections out -/

namespace WriterRun

variable {run : WriterRun}

theorem isLaidOut_start : start.IsLaidOut where
  holds := ContainerWriter.holds_empty
  directory_eq := rfl
  starts := nofun
  ends := nofun
  apart := .nil

theorem IsLaidOut.align (laidOut : run.IsLaidOut) (alignment : Nat) :
    IsLaidOut { run with writer := run.writer.align alignment } where
  holds := laidOut.holds.align alignment
  directory_eq := laidOut.directory_eq
  starts := laidOut.starts
  ends placed present :=
    Nat.le_trans (laidOut.ends placed present) (run.writer.offset_le_offset_align alignment)
  apart := laidOut.apart

theorem IsLaidOut.addSection (laidOut : run.IsLaidOut) (kind : SectionKind) (content : Bytes) :
    (run.call (.addSection kind content)).IsLaidOut where
  holds := by
    have added := laidOut.holds.addSection kind content
    rwa [call, List.map_append]
  directory_eq := by
    change run.writer.directory ++ [_] = (run.placed ++ [_]).map _
    rw [laidOut.directory_eq, List.map_append]
    rfl
  starts := by
    refine List.forall_mem_append.mpr ⟨laidOut.starts, List.forall_mem_singleton.mpr ⟨?_, ?_⟩⟩
    · exact run.writer.dvd_offset_align (by decide)
    · exact (run.writer.align 8).byteSize_le_offset
  ends := by
    have behind := run.writer.offset_le_offset_align 8
    refine List.forall_mem_append.mpr ⟨fun placed present => ?_, List.forall_mem_singleton.mpr ?_⟩
    · have inFront := laidOut.ends placed present
      change placed.finish ≤ (run.writer.addSection kind content).2.offset
      rw [ContainerWriter.offset_addSection]
      omega
    · exact Nat.le_of_eq (run.writer.offset_addSection kind content).symm
  apart := by
    refine List.pairwise_append.mpr ⟨laidOut.apart, List.pairwise_singleton _ _, ?_⟩
    intro placed present added isAdded
    obtain rfl := List.mem_singleton.mp isAdded
    exact Nat.le_trans (laidOut.ends placed present) (run.writer.offset_le_offset_align 8)

/-- One call keeps the sections laid out. -/
theorem IsLaidOut.call (laidOut : run.IsLaidOut) (call : WriterCall) : (run.call call).IsLaidOut := by
  cases call with
  | align alignment positive => exact laidOut.align alignment
  | addSection kind content => exact laidOut.addSection kind content

/-- All calls on the new writer lay the sections out. -/
theorem isLaidOut_ofCalls (calls : List WriterCall) : (ofCalls calls).IsLaidOut := by
  induction calls using List.reverseRecOn with
  | nil => exact isLaidOut_start
  | append_singleton earlier last inductionHypothesis =>
      rw [ofCalls, List.foldl_append]
      exact inductionHypothesis.call last

end WriterRun

/-! ## Finished bytes that are cut short -/

/-- Part of the finished bytes is no container, as it holds no header or not the whole directory. -/
theorem ContainerWriter.Fits.decode_cut
    {writer : ContainerWriter}
    {sections : List Section}
    (fits : writer.Fits sections)
    {front : Bytes}
    (start : front <+: writer.finish)
    (cut : front ≠ writer.finish) :
    Container.decode front =
      .error (if front.length < Header.byteSize then .tooShort else .invalidOffset) := by
  have shorter : front.length < writer.finish.length :=
    Nat.lt_of_le_of_ne start.length_le fun same => cut (start.eq_of_length same)
  rw [Container.decode]
  split
  · rfl
  · next long =>
    have headed : writer.container.header.encode <+: writer.finish := by
      rw [finish_eq, List.append_assoc]
      exact List.prefix_append _ _
    -- The header is still there, and it tells of a directory that reaches behind the cut.
    obtain ⟨behind, rfl⟩ : writer.container.header.encode <+: front :=
      List.prefix_of_prefix_length_le headed start (by rw [Header.length_encode]; omega)
    have behindHeader : ¬ writer.container.header.directoryOffset.toNat < Header.byteSize := by
      rw [fits.toNat_directoryOffset]
      exact Nat.not_lt.mpr (writer.align 8).byteSize_le_offset
    have noDirectory :
        Bytes.slice? (writer.container.header.encode ++ behind)
          writer.container.header.directoryOffset.toNat
          writer.container.header.directorySize.toNat = none := by
      rw [fits.toNat_directoryOffset, fits.toNat_directorySize, Bytes.slice?]
      rw [length_finish] at shorter
      exact if_neg (Nat.not_le.mpr shorter)
    have valid : writer.container.header.validate = .ok () := Header.validate_current _ _ _
    rw [Header.decode_encode_append]
    simp only [Except.mapError, bind, Except.bind, valid, if_neg behindHeader, noDirectory]
    rfl

/-! ## Finished bytes are read back -/

/-- A directory entry tells the kind, the place and the size of a section, and nothing else. -/
structure SectionEntry.Tells (entry : SectionEntry) (placed : PlacedSection) : Prop where
  /-- The kind. -/
  kind : entry.kind = placed.kind
  /-- The offset that was returned. -/
  offset : entry.offset.toNat = placed.offset
  /-- The number of bytes. -/
  size : entry.size.toNat = placed.content.length
  /-- All other fields are zero. -/
  rest : entry.padding = 0 ∧ entry.flags = 0 ∧ entry.reserved = 0

/-- What a container shows that has these sections. -/
structure Container.Shows (container : Container) (sections : List PlacedSection) : Prop where
  /-- The directory tells the sections in their order. -/
  entries : List.Forall₂ SectionEntry.Tells container.directory sections
  /-- The sections start behind the header at multiples of eight. -/
  starts : ∀ placed ∈ sections, 8 ∣ placed.offset ∧ Header.byteSize ≤ placed.offset
  /-- No two sections have a place in common. -/
  apart : sections.Pairwise fun earlier later => earlier.finish ≤ later.offset
  /-- The sections end in front of the directory. -/
  ends : ∀ placed ∈ sections, placed.finish ≤ container.header.directoryOffset.toNat
  /-- Every kind is read as the first section of the kind. -/
  contents : ∀ kind, container.read kind =
    match sections.find? fun placed => placed.kind = kind with
    | some placed => .ok placed.content
    | none => .error (.sectionNotFound kind)

namespace WriterRun

variable {run : WriterRun}

theorem lookup_toSection (sections : List PlacedSection) (kind : SectionKind) :
    (sections.map PlacedSection.toSection).lookup kind =
      (sections.find? fun placed => placed.kind = kind).map PlacedSection.content := by
  induction sections with
  | nil => rfl
  | cons placed sections inductionHypothesis =>
      rw [List.map_cons, PlacedSection.toSection, List.lookup_cons, List.find?_cons, inductionHypothesis]
      by_cases same : placed.kind = kind
      · simp [same]
      · have missed : (kind == placed.kind) = false := by simpa using Ne.symm same
        simp [same, missed]

theorem IsLaidOut.tells (laidOut : run.IsLaidOut) (short : run.writer.offset < 2 ^ 32) :
    List.Forall₂ SectionEntry.Tells run.writer.directory run.placed := by
  rw [laidOut.directory_eq, List.forall₂_map_left_iff, List.forall₂_same]
  intro placed present
  have inside := laidOut.ends placed present
  rw [PlacedSection.finish] at inside
  exact ⟨rfl, Bytes.toNat_ofNat32 (by omega), Bytes.toNat_ofNat32 (by omega), rfl, rfl, rfl⟩

theorem IsLaidOut.shows
    (laidOut : run.IsLaidOut)
    (fits : run.writer.Fits (run.placed.map PlacedSection.toSection)) :
    run.writer.container.Shows run.placed where
  entries := by
    have behind := run.writer.offset_le_offset_align 8
    have bound := fits.offset_add_byteSize_lt
    exact laidOut.tells (by omega)
  starts := laidOut.starts
  apart := laidOut.apart
  ends placed present := by
    rw [fits.toNat_directoryOffset]
    exact Nat.le_trans (laidOut.ends placed present) (run.writer.offset_le_offset_align 8)
  contents kind := by
    rw [fits.read_container, lookup_toSection]
    cases run.placed.find? fun placed => placed.kind = kind <;> rfl

end WriterRun

/--
However a container is written, its finished bytes are read back as a container of the sections that were
added, and they are refused when they are cut short anywhere.
-/
theorem WriterRun.decode_finish_ofCalls
    (calls : List WriterCall)
    (few : (ofCalls calls).placed.length ≤ 65535)
    (short : (ofCalls calls).writer.finish.length < 2 ^ 32) :
    (∃ container, Container.decode (ofCalls calls).writer.finish = .ok container ∧
        container.Shows (ofCalls calls).placed) ∧
      ∀ front, front <+: (ofCalls calls).writer.finish → front ≠ (ofCalls calls).writer.finish →
        Container.decode front =
          .error (if front.length < Header.byteSize then .tooShort else .invalidOffset) := by
  have laidOut := isLaidOut_ofCalls calls
  have fits : (ofCalls calls).writer.Fits ((ofCalls calls).placed.map PlacedSection.toSection) :=
    { holds := laidOut.holds
      few := by rw [List.length_map]; omega
      short := short }
  exact ⟨⟨_, fits.decode_finish, laidOut.shows fits⟩, fun _ => fits.decode_cut⟩

theorem WriterRun.decode_finish_twoSections :
    let run := ofCalls [.align 24 (by decide), .addSection .codeData [7], .addSection .codeData []]
    run.placed.length ≤ 65535 ∧ run.writer.finish.length < 2 ^ 32 ∧
      run.placed = [⟨48, .codeData, [7]⟩, ⟨56, .codeData, []⟩] ∧
      ∃ container, Container.decode run.writer.finish = .ok container ∧
        container.read .codeData = .ok [7] := by
  intro run
  have few : run.placed.length ≤ 65535 := by decide
  have short : run.writer.finish.length < 2 ^ 32 := by decide
  obtain ⟨⟨container, read, shows⟩, _⟩ := decode_finish_ofCalls _ few short
  exact ⟨few, short, rfl, container, read, shows.contents .codeData⟩

end LateBinding
