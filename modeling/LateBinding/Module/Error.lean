import LateBinding.Text.Hexadecimal

/-!
# Errors of reading a module

What can be wrong with the bytes of a module: the header, a table, the code, or the way in which
the parts fit together.
-/

namespace LateBinding

/-- The kinds of sections of a module. -/
inductive SectionKind where
  /-- The texts that the other sections refer to. -/
  | stringPool
  /-- The name of the type and the sizes of its tables. -/
  | typeInfo
  /-- The fields. -/
  | fieldTable
  /-- The constructor. -/
  | constructorTable
  /-- The methods. -/
  | methodTable
  /-- The instructions of all members. -/
  | codeData
  deriving DecidableEq, Repr, Inhabited

namespace SectionKind

/-- The name of a kind. -/
def text : SectionKind → String
  | stringPool => "StringPool"
  | typeInfo => "TypeInfo"
  | fieldTable => "FieldTable"
  | constructorTable => "ConstructorTable"
  | methodTable => "MethodTable"
  | codeData => "CodeData"

/-- The code of a kind in a section directory. -/
def code : SectionKind → UInt8
  | stringPool => 1
  | typeInfo => 2
  | fieldTable => 3
  | constructorTable => 4
  | methodTable => 5
  | codeData => 6

/-- The kind of a code. -/
def ofCode? (code : UInt8) : Option SectionKind :=
  if code = 1 then some stringPool
  else if code = 2 then some typeInfo
  else if code = 3 then some fieldTable
  else if code = 4 then some constructorTable
  else if code = 5 then some methodTable
  else if code = 6 then some codeData
  else none

@[simp]
theorem ofCode?_code (kind : SectionKind) : ofCode? kind.code = some kind := by
  cases kind <;> rfl

/-- All kinds in the order of their codes. -/
def all : List SectionKind :=
  [stringPool, typeInfo, fieldTable, constructorTable, methodTable, codeData]

end SectionKind

/-- What is wrong with a file header. -/
inductive HeaderError where
  /-- There are fewer bytes than a header has. -/
  | tooShort
  /-- The first four bytes are not those of a module. -/
  | invalidMagic (magic : Vector UInt8 4)
  /-- The module is of another major version. -/
  | unsupportedVersion (major minor patch supported : UInt8)
  deriving DecidableEq, Repr

/-- The message of an error. -/
def HeaderError.message : HeaderError → String
  | tooShort => "Header too short"
  | invalidMagic magic =>
      "Invalid magic: [" ++ String.intercalate ", " (magic.toList.map Text.hexByte) ++ "]"
  | unsupportedVersion major minor patch supported =>
      s!"Unsupported format version {major}.{minor}.{patch} (supported major version: {supported})"

/-- The kind of an error. -/
def HeaderError.kind : HeaderError → String
  | tooShort => "TooShort"
  | invalidMagic _ => "InvalidMagic"
  | unsupportedVersion .. => "UnsupportedVersion"

/-- What is wrong with a section or the section directory. -/
inductive TableError where
  /-- The bytes end inside an item. -/
  | tooShort
  /-- There is no section of this kind. -/
  | invalidKind (code : UInt8)
  /-- The sizes inside a section contradict each other. -/
  | invalidSize
  /-- There is no type of this code. -/
  | invalidTypeCode (code : UInt8)
  /-- There is no visibility of this code. -/
  | invalidVisibility (code : UInt8)
  /-- There is no text of this index. -/
  | invalidStringIndex (index : UInt32)
  /-- There are bytes behind the last item. -/
  | trailingBytes (count : Nat)
  deriving DecidableEq, Repr, Inhabited

/-- The message of an error. -/
def TableError.message : TableError → String
  | tooShort => "Section data too short"
  | invalidKind code => s!"Invalid section kind: {code}"
  | invalidSize => "Invalid section data size"
  | invalidTypeCode code => s!"Invalid type code: {code}"
  | invalidVisibility code => s!"Invalid visibility: {code}"
  | invalidStringIndex index => s!"Invalid string index: {index}"
  | trailingBytes count => s!"{count} trailing byte(s) in section"

/-- The kind of an error. -/
def TableError.kind : TableError → String
  | tooShort => "TooShort"
  | invalidKind _ => "InvalidKind"
  | invalidSize => "InvalidSize"
  | invalidTypeCode _ => "InvalidTypeCode"
  | invalidVisibility _ => "InvalidVisibility"
  | invalidStringIndex _ => "InvalidStringIndex"
  | trailingBytes _ => "TrailingBytes"

/-- What is wrong with the code of a member. -/
inductive CodeError where
  /-- There is no operation of this code. -/
  | unknownOperation (code : UInt8) (offset : Nat)
  /-- The code ends inside an instruction. -/
  | truncated (offset : Nat)
  deriving DecidableEq, Repr, Inhabited

/-- The message of an error. -/
def CodeError.message : CodeError → String
  | unknownOperation code offset => s!"Unknown opcode 0x{Text.hexByte code} at offset {offset}"
  | truncated offset => s!"Truncated instruction at offset {offset}"

/-- The kind of an error. -/
def CodeError.kind : CodeError → String
  | unknownOperation .. => "UnknownOpcode"
  | truncated _ => "Truncated"

/-- What is wrong with the bytes of a module. -/
inductive ModuleError where
  /-- The header is wrong. -/
  | header (error : HeaderError)
  /-- A section or the section directory is wrong. -/
  | table (error : TableError)
  /-- The code of a member is wrong. -/
  | code (error : CodeError)
  /-- There are fewer bytes than a header has. -/
  | tooShort
  /-- A part lies outside the bytes. -/
  | invalidOffset
  /-- There is no section of this kind. -/
  | sectionNotFound (kind : SectionKind)
  /-- Two parts contradict each other. -/
  | inconsistent (reason : String)
  deriving DecidableEq, Repr

/-- The message of an error. -/
def ModuleError.message : ModuleError → String
  | header error => s!"Header error: {error.message}"
  | table error => s!"Section error: {error.message}"
  | code error => s!"Code error: {error.message}"
  | tooShort => "Data too short"
  | invalidOffset => "Invalid offset"
  | sectionNotFound kind => s!"Section not found: {kind.text}"
  | inconsistent reason => s!"Inconsistent module: {reason}"

/-- The kind of an error. -/
def ModuleError.kind : ModuleError → String
  | header _ => "Header"
  | table _ => "Section"
  | code _ => "Code"
  | tooShort => "TooShort"
  | invalidOffset => "InvalidOffset"
  | sectionNotFound _ => "SectionNotFound"
  | inconsistent _ => "Inconsistent"

/-- The message of the error of a part that is behind an error. -/
def ModuleError.cause? : ModuleError → Option String
  | header error => some error.message
  | table error => some error.message
  | code error => some error.message
  | _ => none

end LateBinding
