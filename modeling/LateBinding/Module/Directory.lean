import LateBinding.Bytes.Reader

/-!
# Section directories

The directory at the end of a module tells the kind, the offset and the size of each section.  An
entry takes 16 bytes.
-/

namespace LateBinding

/-- What the directory tells about a section. -/
structure SectionEntry where
  /-- The kind of the section. -/
  kind : SectionKind
  /-- A byte of padding, kept as it was read. -/
  padding : UInt8
  /-- Flags, kept as they were read. -/
  flags : UInt16
  /-- The offset of the section's first byte. -/
  offset : UInt32
  /-- The number of the section's bytes. -/
  size : UInt32
  /-- A word in reserve, kept as it was read. -/
  reserved : UInt32
  deriving DecidableEq, Repr, Inhabited

namespace SectionEntry

/-- The number of bytes of an entry. -/
def byteSize : Nat := 16

/-- The entry of a section. -/
def of (kind : SectionKind) (offset size : UInt32) : SectionEntry where
  kind := kind
  padding := 0
  flags := 0
  offset := offset
  size := size
  reserved := 0

/-- The offset behind the section's last byte. -/
def finish (entry : SectionEntry) : Nat :=
  entry.offset.toNat + entry.size.toNat

/-- The bytes of an entry. -/
def encode (entry : SectionEntry) : Bytes :=
  [entry.kind.code, entry.padding] ++ Bytes.ofWord16 entry.flags ++ Bytes.ofWord32 entry.offset ++
    Bytes.ofWord32 entry.size ++ Bytes.ofWord32 entry.reserved

/-- The entry of the next bytes; the kind is looked at when all bytes are there. -/
def read : ByteReader SectionEntry := do
  let code ← ByteReader.byte
  let padding ← ByteReader.byte
  let flags ← ByteReader.word16
  let offset ← ByteReader.word32
  let size ← ByteReader.word32
  let reserved ← ByteReader.word32
  let kind ← ByteReader.require (.invalidKind code) (SectionKind.ofCode? code)
  return { kind, padding, flags, offset, size, reserved }

/-- The entry that bytes start with. -/
def decode (bytes : Bytes) : Except TableError SectionEntry :=
  read.on bytes

@[simp]
theorem length_encode (entry : SectionEntry) : entry.encode.length = byteSize := rfl

end SectionEntry

/-- The entries of all sections in the order of the directory. -/
abbrev SectionDirectory :=
  List SectionEntry

namespace SectionDirectory

/-- The first entry of a kind. -/
def find? (directory : SectionDirectory) (kind : SectionKind) : Option SectionEntry :=
  List.find? (fun entry => entry.kind = kind) directory

/-- The number of bytes of a directory. -/
def byteSize (directory : SectionDirectory) : Nat :=
  directory.length * SectionEntry.byteSize

/-- The bytes of a directory. -/
def encode (directory : SectionDirectory) : Bytes :=
  directory.flatMap SectionEntry.encode

/-- The directory of bytes, which are a whole number of entries. -/
def decode (bytes : Bytes) : Except TableError SectionDirectory :=
  if bytes.length % SectionEntry.byteSize ≠ 0 then .error .invalidSize
  else (SectionEntry.read.times (bytes.length / SectionEntry.byteSize)).on bytes

end SectionDirectory
end LateBinding
