import LateBinding.Module.Directory
import LateBinding.Module.Header

/-!
# Containers

A container is a header, sections that start at multiples of eight, and the section directory.
The writer collects sections; the reader checks that the directory and all sections lie inside the
bytes before any section is looked at.
-/

namespace LateBinding

/-- A container that is being written. -/
structure ContainerWriter where
  /-- The entries of the sections so far. -/
  directory : SectionDirectory
  /-- The bytes behind the header so far. -/
  body : Bytes
  deriving DecidableEq, Repr, Inhabited

namespace ContainerWriter

/-- The container without sections. -/
def empty : ContainerWriter :=
  ⟨[], []⟩

/-- The offset at which the next byte comes to lie. -/
def offset (writer : ContainerWriter) : Nat :=
  Header.byteSize + writer.body.length

/-- The number of bytes from an offset to the next multiple of an alignment. -/
def paddingTo (alignment offset : Nat) : Nat :=
  if offset % alignment = 0 then 0 else alignment - offset % alignment

/-- Adds zeros up to the next multiple of an alignment. -/
def align (writer : ContainerWriter) (alignment : Nat) : ContainerWriter :=
  { writer with body := writer.body ++ List.replicate (paddingTo alignment writer.offset) 0 }

/-- Adds a section at the next multiple of eight, and returns its offset. -/
def addSection
    (writer : ContainerWriter)
    (kind : SectionKind)
    (content : Bytes) :
    Nat × ContainerWriter :=
  let aligned := writer.align 8
  let entry :=
    SectionEntry.of kind (UInt32.ofNat aligned.offset) (UInt32.ofNat content.length)
  (aligned.offset,
    { directory := aligned.directory ++ [entry], body := aligned.body ++ content })

/-- The bytes of the container: the header, the sections and the directory. -/
def finish (writer : ContainerWriter) : Bytes :=
  let aligned := writer.align 8
  let header :=
    Header.current (UInt16.ofNat aligned.directory.length) (UInt32.ofNat aligned.offset)
      (UInt32.ofNat aligned.directory.byteSize)
  header.encode ++ aligned.body ++ aligned.directory.encode

/-- The container of sections in a given order. -/
def ofSections (sections : List (SectionKind × Bytes)) : ContainerWriter :=
  sections.foldl (fun writer (kind, content) => (writer.addSection kind content).2) empty

end ContainerWriter

/-- A container that has been read. -/
structure Container where
  /-- All bytes. -/
  bytes : Bytes
  /-- The header. -/
  header : Header
  /-- The section directory. -/
  directory : SectionDirectory
  deriving DecidableEq, Repr

namespace Container

/--
The container of bytes.  The header is valid, the directory lies between the header and the end and
has as many entries as the header tells, and all sections end in front of the directory.
-/
def decode (bytes : Bytes) : Except ModuleError Container :=
  if bytes.length < Header.byteSize then .error .tooShort
  else do
    let header ← (Header.decode bytes).mapError .header
    header.validate.mapError .header
    let start := header.directoryOffset.toNat
    if start < Header.byteSize then throw .invalidOffset
    match Bytes.slice? bytes start header.directorySize.toNat with
    | none => throw .invalidOffset
    | some stored =>
        let directory ← (SectionDirectory.decode stored).mapError .table
        if directory.length ≠ header.sectionCount.toNat then
          throw (.inconsistent
            s!"header declares {header.sectionCount} sections, directory has {directory.length}")
        if directory.any fun entry => start < entry.finish then throw .invalidOffset
        return ⟨bytes, header, directory⟩

/-- The bytes of the first section of a kind. -/
def read (container : Container) (kind : SectionKind) : Except ModuleError Bytes :=
  match container.directory.find? kind with
  | none => .error (.sectionNotFound kind)
  | some entry =>
      match Bytes.slice? container.bytes entry.offset.toNat entry.size.toNat with
      | none => .error .invalidOffset
      | some content => .ok content

end Container
end LateBinding
