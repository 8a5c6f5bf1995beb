import LateBinding.Bytes.Reader

/-!
# File headers

A module starts with a header of 32 bytes: the magic number, the version, flags, and where the
section directory lies.  It holds nothing that changes from one writing to the next.
-/

namespace LateBinding

/-- The header of a module. -/
structure Header where
  /-- The magic number. -/
  magic : Vector UInt8 4
  /-- The major version; modules of different major versions do not understand each other. -/
  major : UInt8
  /-- The minor version. -/
  minor : UInt8
  /-- The patch level. -/
  patch : UInt8
  /-- Flags, unused. -/
  flags : UInt32
  /-- The number of sections. -/
  sectionCount : UInt16
  /-- The offset of the section directory. -/
  directoryOffset : UInt32
  /-- The size of the section directory. -/
  directorySize : UInt32
  deriving DecidableEq, Repr

namespace Header

/-- The number of bytes of a header. -/
def byteSize : Nat := 32

/-- The magic number of modules. -/
def moduleMagic : Vector UInt8 4 :=
  #v[0x4B, 0x49, 0x4C, 0x4E]

/-- The magic number of modules as text. -/
def moduleMagicText : String :=
  "KILN"

/-- The major version that is written and read. -/
def currentMajor : UInt8 := 1

/-- The header of the current version for a section directory. -/
def current (sectionCount : UInt16) (directoryOffset directorySize : UInt32) : Header where
  magic := moduleMagic
  major := currentMajor
  minor := 0
  patch := 0
  flags := 0
  sectionCount := sectionCount
  directoryOffset := directoryOffset
  directorySize := directorySize

/-- The bytes of a header; unused bytes are zero. -/
def encode (header : Header) : Bytes :=
  header.magic.toList ++ [header.major, header.minor, header.patch, 0] ++
    Bytes.ofWord32 header.flags ++ Bytes.ofWord16 header.sectionCount ++ [0, 0] ++
    Bytes.ofWord32 header.directoryOffset ++ Bytes.ofWord32 header.directorySize ++
    List.replicate 8 0

/-- The header of the next bytes. -/
def read : ByteReader Header := do
  let magic0 ← ByteReader.byte
  let magic1 ← ByteReader.byte
  let magic2 ← ByteReader.byte
  let magic3 ← ByteReader.byte
  let major ← ByteReader.byte
  let minor ← ByteReader.byte
  let patch ← ByteReader.byte
  ByteReader.skip 1
  let flags ← ByteReader.word32
  let sectionCount ← ByteReader.word16
  ByteReader.skip 2
  let directoryOffset ← ByteReader.word32
  let directorySize ← ByteReader.word32
  ByteReader.skip 8
  return {
    magic := #v[magic0, magic1, magic2, magic3]
    major, minor, patch, flags, sectionCount, directoryOffset, directorySize }

/-- The header that bytes start with. -/
def decode (bytes : Bytes) : Except HeaderError Header :=
  match read.on bytes with
  | .ok header => .ok header
  | .error _ => .error .tooShort

/-- Asks that a header is that of a module which can be read: the magic number, then the version. -/
def validate (header : Header) : Except HeaderError Unit :=
  if header.magic ≠ moduleMagic then .error (.invalidMagic header.magic)
  else if header.major ≠ currentMajor then
    .error (.unsupportedVersion header.major header.minor header.patch currentMajor)
  else .ok ()

/-- The version of a header as text. -/
def versionText (header : Header) : String :=
  s!"{header.major}.{header.minor}.{header.patch}"

@[simp]
theorem length_encode (header : Header) : header.encode.length = byteSize := by
  simp [encode, byteSize]

end Header
end LateBinding
