import LateBinding.Module.Container
import LateBinding.Proofs.Bytes.Access
import LateBinding.Proofs.Outcome

/-!
# Containers by position

The fields of a header and of a directory entry stand at fixed positions, and the header and the directory
tell where everything else stands.  Each position is looked at only behind the check that it is there, so
reading a container comes to an outcome on all bytes.  In an accepted container all sections are there.
-/

namespace LateBinding

/-! ## Headers -/

namespace Header

theorem size_magic (byte0 byte1 byte2 byte3 : UInt8) :
    #[byte0, byte1, byte2, byte3].size = 4 := rfl

/-- The header of bytes, each field at its position. -/
def decodeAt (bytes : Bytes) : Access HeaderError Header :=
  if bytes.length < byteSize then throw .tooShort
  else do
    let magic ← bytes.window? 0 4
    let magic0 ← magic.byte? 0
    let magic1 ← magic.byte? 1
    let magic2 ← magic.byte? 2
    let magic3 ← magic.byte? 3
    let major ← bytes.byte? 4
    let minor ← bytes.byte? 5
    let patch ← bytes.byte? 6
    let flags ← bytes.word32? 8
    let sectionCount ← bytes.word16? 12
    let directoryOffset ← bytes.word32? 16
    let directorySize ← bytes.word32? 20
    return {
      magic := ⟨#[magic0, magic1, magic2, magic3], size_magic magic0 magic1 magic2 magic3⟩
      major, minor, patch, flags, sectionCount, directoryOffset, directorySize }

variable {bytes : Bytes}

/-- The fields of a header that is read from the front stand at fixed positions. -/
theorem decode_eq (long : 32 ≤ bytes.length) :
    decode bytes = .ok {
      magic := #v[bytes[0], bytes[1], bytes[2], bytes[3]]
      major := bytes[4]
      minor := bytes[5]
      patch := bytes[6]
      flags := Bytes.word32 bytes[8] bytes[9] bytes[10] bytes[11]
      sectionCount := Bytes.word16 bytes[12] bytes[13]
      directoryOffset := Bytes.word32 bytes[16] bytes[17] bytes[18] bytes[19]
      directorySize := Bytes.word32 bytes[20] bytes[21] bytes[22] bytes[23] } := by
  have start : read bytes = read (bytes.drop 0) := rfl
  rw [decode, ByteReader.on, start, read,
    bind_of_eq_ok (ByteReader.byte_drop (by omega)),
    bind_of_eq_ok (ByteReader.byte_drop (by omega)),
    bind_of_eq_ok (ByteReader.byte_drop (by omega)),
    bind_of_eq_ok (ByteReader.byte_drop (by omega)),
    bind_of_eq_ok (ByteReader.byte_drop (by omega)),
    bind_of_eq_ok (ByteReader.byte_drop (by omega)),
    bind_of_eq_ok (ByteReader.byte_drop (by omega)),
    bind_of_eq_ok (ByteReader.skip_drop (by omega)),
    bind_of_eq_ok (ByteReader.word32_drop (by omega)),
    bind_of_eq_ok (ByteReader.word16_drop (by omega)),
    bind_of_eq_ok (ByteReader.skip_drop (by omega)),
    bind_of_eq_ok (ByteReader.word32_drop (by omega)),
    bind_of_eq_ok (ByteReader.word32_drop (by omega)),
    bind_of_eq_ok (ByteReader.skip_drop (by omega))]
  rfl

/-- The first bytes of a container hold its header. -/
theorem decodeAt_take_gives (long : 32 ≤ bytes.length) :
    (decodeAt (bytes.take 32)).Gives (decode bytes) := by
  have length : (bytes.take 32).length = 32 := List.length_take_of_le long
  have magic : (bytes.take 4).length = 4 := List.length_take_of_le (by omega)
  have window : Bytes.window? (bytes.take 32) 0 4 = some (bytes.take 4) := by
    rw [Bytes.window?, if_pos ⟨by decide, by rw [length]; decide⟩, List.drop_zero, List.take_take]
    rfl
  rw [decode_eq long, decodeAt, if_neg (by rw [length]; decide)]
  refine (Access.gives_of_some window).bind_ok ?_
  simp (disch := omega) only [Bytes.word32?_eq_some, Bytes.word16?_eq_some, Bytes.byte?_eq_some,
    List.getElem_take]
  rfl

end Header

/-! ## Directories -/

namespace SectionEntry

/-- The entry of bytes, each field at its position; the kind is looked at first. -/
def decodeAt (bytes : Bytes) : Access TableError SectionEntry :=
  if bytes.length < byteSize then throw .tooShort
  else do
    let code ← bytes.byte? 0
    match SectionKind.ofCode? code with
    | none => throw (.invalidKind code)
    | some kind =>
        let padding ← bytes.byte? 1
        let flags ← bytes.word16? 2
        let offset ← bytes.word32? 4
        let size ← bytes.word32? 8
        let reserved ← bytes.word32? 12
        return { kind, padding, flags, offset, size, reserved }

variable {bytes : Bytes}

/-- An entry is the same whether its kind is looked at first or last. -/
theorem decodeAt_take_gives (long : 16 ≤ bytes.length) :
    (∃ entry, (decodeAt (bytes.take 16)).Gives (.ok entry) ∧
      read bytes = .ok entry (bytes.drop 16)) ∨
    ∃ fault, (decodeAt (bytes.take 16)).Gives (.error fault) ∧
      read bytes = .error fault (bytes.drop 16) := by
  -- All bytes of the entry are there, so that only its kind can be refused.
  have length : (bytes.take 16).length = 16 := List.length_take_of_le long
  have start : read bytes = read (bytes.drop 0) := rfl
  rw [start, read,
    bind_of_eq_ok (ByteReader.byte_drop (by omega)),
    bind_of_eq_ok (ByteReader.byte_drop (by omega)),
    bind_of_eq_ok (ByteReader.word16_drop (by omega)),
    bind_of_eq_ok (ByteReader.word32_drop (by omega)),
    bind_of_eq_ok (ByteReader.word32_drop (by omega)),
    bind_of_eq_ok (ByteReader.word32_drop (by omega)),
    decodeAt, if_neg (by rw [length]; decide)]
  simp (disch := omega) only [Bytes.word32?_eq_some, Bytes.word16?_eq_some, Bytes.byte?_eq_some,
    List.getElem_take]
  cases kind : SectionKind.ofCode? bytes[0] with
  | none =>
      refine .inr ⟨.invalidKind bytes[0], (Access.gives_of_some rfl).bind_ok ?_, rfl⟩
      rw [kind]
      exact Access.gives_throw _
  | some found =>
      refine .inl ⟨_, (Access.gives_of_some rfl).bind_ok ?_, rfl⟩
      rw [kind]
      rfl

end SectionEntry

namespace SectionDirectory

/-- The entries of bytes, so many of them. -/
def entriesAt : Nat → Bytes → Access TableError SectionDirectory
  | 0, _ => return []
  | count + 1, bytes => do
      let entry ← SectionEntry.decodeAt (bytes.take SectionEntry.byteSize)
      let entries ← entriesAt count (bytes.drop SectionEntry.byteSize)
      return entry :: entries

/-- The directory of bytes, which are a whole number of entries. -/
def decodeAt (bytes : Bytes) : Access TableError SectionDirectory :=
  if bytes.length % SectionEntry.byteSize ≠ 0 then throw .invalidSize
  else entriesAt (bytes.length / SectionEntry.byteSize) bytes

theorem entriesAt_gives
    {count : Nat}
    {bytes : Bytes}
    (enough : 16 * count ≤ bytes.length) :
    (entriesAt count bytes).Gives ((SectionEntry.read.times count).on bytes) := by
  induction count generalizing bytes with
  | zero => exact Access.gives_pure []
  | succ count inductionHypothesis =>
      rw [entriesAt, ByteReader.times, ByteReader.on]
      rcases SectionEntry.decodeAt_take_gives (show 16 ≤ bytes.length by omega) with
        ⟨entry, gives, read⟩ | ⟨fault, gives, read⟩
      · have later : (entriesAt count (bytes.drop 16)).Gives _ :=
          inductionHypothesis (by rw [List.length_drop]; omega)
        refine gives.bind_ok ?_
        rw [bind_of_eq_ok read]
        unfold ByteReader.on at later
        cases rest : SectionEntry.read.times count (bytes.drop 16) with
        | ok entries behind =>
            rw [rest] at later
            rw [bind_of_eq_ok rest]
            exact later.bind_ok (Access.gives_pure _)
        | error fault behind =>
            rw [rest] at later
            rw [bind_of_eq_error rest]
            exact later.bind_error
      · rw [bind_of_eq_error read]
        exact gives.bind_error

theorem decodeAt_gives (bytes : Bytes) : (decodeAt bytes).Gives (decode bytes) := by
  unfold decodeAt decode
  split
  · exact Access.gives_throw _
  · exact entriesAt_gives (Nat.mul_div_le bytes.length 16)

end SectionDirectory

/-! ## Containers -/

namespace Container

/-- The position behind a section. -/
def finishAt (entry : SectionEntry) : Option Nat :=
  Access.sum? entry.offset.toNat entry.size.toNat

/-- Whether a section of a directory reaches behind a position. -/
def reachesBehind (position : Nat) (directory : SectionDirectory) : Option Bool :=
  directory.anyM fun entry => return position < (← finishAt entry)

/-- The container of bytes.  Every position is checked before it is looked at. -/
def decodeAt (bytes : Bytes) : Access ModuleError Container :=
  if bytes.length < Header.byteSize then throw .tooShort
  else do
    let front ← bytes.window? 0 Header.byteSize
    let header ← ExceptT.adapt ModuleError.header (Header.decodeAt front)
    ExceptT.adapt ModuleError.header (liftM header.validate)
    let start := header.directoryOffset.toNat
    let finish ← Access.sum? start header.directorySize.toNat
    if start < Header.byteSize ∨ bytes.length < finish then throw .invalidOffset
    else do
      let stored ← bytes.window? start finish
      let directory ← ExceptT.adapt ModuleError.table (SectionDirectory.decodeAt stored)
      if directory.length ≠ header.sectionCount.toNat then
        throw (.inconsistent
          s!"header declares {header.sectionCount} sections, directory has {directory.length}")
      else if ← reachesBehind start directory then throw .invalidOffset
      else return ⟨bytes, header, directory⟩

/-- The bytes of the first section of a kind. -/
def readAt (container : Container) (kind : SectionKind) : Access ModuleError Bytes :=
  match container.directory.find? kind with
  | none => throw (.sectionNotFound kind)
  | some entry => do
      let finish ← finishAt entry
      match container.bytes.window? entry.offset.toNat finish with
      | none => throw .invalidOffset
      | some content => return content

/-- The position behind a section has 64 bits, since its offset and its size have 32. -/
theorem finishAt_eq (entry : SectionEntry) : finishAt entry = some entry.finish := by
  have offset := entry.offset.toNat_lt
  have size := entry.size.toNat_lt
  exact if_pos (by omega)

theorem readAt_gives (container : Container) (kind : SectionKind) :
    (container.readAt kind).Gives (container.read kind) := by
  unfold readAt read
  cases container.directory.find? kind with
  | none => exact Access.gives_throw _
  | some entry =>
      dsimp only
      refine (Access.gives_of_some (finishAt_eq entry)).bind_ok ?_
      rw [SectionEntry.finish, Bytes.window?_add]
      cases container.bytes.slice? entry.offset.toNat entry.size.toNat with
      | none => exact Access.gives_throw _
      | some content => exact Access.gives_pure _

theorem reachesBehind_eq (position : Nat) (directory : SectionDirectory) :
    reachesBehind position directory =
      some (directory.any fun entry => position < entry.finish) := by
  unfold reachesBehind
  induction directory with
  | nil => rfl
  | cons entry rest inductionHypothesis =>
      rw [List.anyM, finishAt_eq, List.any_cons]
      by_cases beyond : position < entry.finish
      · simp [beyond]
      · simpa [beyond] using inductionHypothesis

/-- Reading a container by position comes to the same as reading it from the front. -/
theorem decodeAt_gives (bytes : Bytes) : (decodeAt bytes).Gives (decode bytes) := by
  unfold decodeAt decode
  by_cases short : bytes.length < Header.byteSize
  · rw [if_pos short, if_pos short]
    exact Access.gives_throw _
  rw [if_neg short, if_neg short]
  have long : 32 ≤ bytes.length := Nat.le_of_not_lt short
  have front : bytes.window? 0 Header.byteSize = some (bytes.take 32) :=
    if_pos ⟨Nat.zero_le _, long⟩
  refine (Access.gives_of_some front).bind_ok ?_
  refine ((Header.decodeAt_take_gives long).adapt _).bind fun header _ => ?_
  refine ((Access.gives_lift _).adapt _).bind fun _ _ => ?_
  -- The offset and the size of the directory have 32 bits, so their sum has 64.
  have size := header.directorySize.toNat_lt
  have offset := header.directoryOffset.toNat_lt
  refine (Access.gives_of_some (if_pos (by omega))).bind_ok ?_
  dsimp only
  by_cases early : header.directoryOffset.toNat < Header.byteSize
  · rw [if_pos (.inl early), if_pos early]
    exact Access.gives_throw _
  by_cases beyond : bytes.length < header.directoryOffset.toNat + header.directorySize.toNat
  · rw [if_pos (.inr beyond), if_neg early, Bytes.slice?, if_neg (Nat.not_le_of_lt beyond)]
    exact Access.gives_throw _
  rw [if_neg (by omega), if_neg early, ← Bytes.window?_add]
  have window : bytes.window? header.directoryOffset.toNat
      (header.directoryOffset.toNat + header.directorySize.toNat) = some _ :=
    if_pos ⟨Nat.le_add_right _ _, Nat.le_of_not_lt beyond⟩
  rw [window]
  refine (Access.gives_of_some rfl).bind_ok ?_
  refine ((SectionDirectory.decodeAt_gives _).adapt _).bind fun directory _ => ?_
  by_cases miscounted : directory.length ≠ header.sectionCount.toNat
  · rw [if_pos miscounted, if_pos miscounted]
    exact Access.gives_throw _
  rw [if_neg miscounted, if_neg miscounted]
  refine (Access.gives_of_some (reachesBehind_eq _ directory)).bind_ok ?_
  split
  · exact Access.gives_throw _
  · exact Access.gives_pure _

/-- All sections of an accepted container end in front of its directory, which ends inside the bytes. -/
theorem sections_inside_of_decode
    {bytes : Bytes}
    {container : Container}
    (decoded : decode bytes = .ok container) :
    container.bytes = bytes ∧ ∀ entry ∈ container.directory, entry.finish ≤ bytes.length := by
  unfold decode at decoded
  obtain ⟨_, decoded⟩ := Outcome.of_guard decoded
  obtain ⟨header, _, decoded⟩ := Outcome.bind_eq_ok_iff.mp decoded
  obtain ⟨_, _, decoded⟩ := Outcome.bind_eq_ok_iff.mp decoded
  obtain ⟨_, decoded⟩ := Outcome.of_guard decoded
  rw [Bytes.slice?] at decoded
  by_cases inside : header.directoryOffset.toNat + header.directorySize.toNat ≤ bytes.length
  · rw [if_pos inside] at decoded
    obtain ⟨directory, _, decoded⟩ := Outcome.bind_eq_ok_iff.mp decoded
    obtain ⟨_, decoded⟩ := Outcome.of_guard decoded
    obtain ⟨within, decoded⟩ := Outcome.of_guard decoded
    obtain rfl := Except.ok.inj decoded
    refine ⟨rfl, fun entry present => ?_⟩
    rw [List.any_eq_true, not_exists] at within
    have before := within entry
    simp only [present, true_and, decide_eq_true_eq] at before
    omega
  · rw [if_neg inside] at decoded
    exact absurd decoded (Outcome.error_ne_ok _ _)

/-- Once a container has been accepted, none of its sections is missing some bytes. -/
theorem read_ne_invalidOffset_of_decode
    {bytes : Bytes}
    {container : Container}
    (decoded : decode bytes = .ok container)
    (kind : SectionKind) :
    container.read kind ≠ .error .invalidOffset := by
  unfold read
  cases found : container.directory.find? kind with
  | none => simp
  | some entry =>
      obtain ⟨same, sectionsInside⟩ := sections_inside_of_decode decoded
      have inside := sectionsInside entry (List.mem_of_find?_eq_some found)
      rw [← same, SectionEntry.finish] at inside
      dsimp only
      rw [Bytes.slice?, if_pos inside]
      exact (Outcome.error_ne_ok _ _).symm

end Container
end LateBinding
