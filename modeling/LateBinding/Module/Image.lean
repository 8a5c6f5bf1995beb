import LateBinding.Module.Container
import LateBinding.Module.Instruction
import LateBinding.Module.StringPool
import LateBinding.Value.Field

/-!
# Module images

The content of a module: the name of its type, the fields, the constructor and the methods with
their code, and the texts that the code refers to.  Reading a module checks that every index in
its code refers to something and that every code ends with a return.
-/

namespace LateBinding

/-- A constructor or a method with its code. -/
structure Member where
  /-- The name. -/
  name : String
  /-- The type of the result. -/
  result : ValueType
  /-- The types of the parameters. -/
  parameters : List ValueType
  /-- The instructions. -/
  code : Code
  deriving DecidableEq, Repr, Inhabited

/-- The name and the parameter types of a member. -/
def Member.signature (member : Member) : String :=
  signatureText member.name member.parameters

/-- The name that a constructor has among the members. -/
def constructorName : String :=
  "<init>"

/-- The content of a module. -/
structure ModuleImage where
  /-- The qualified name of the type. -/
  name : String
  /-- The fields in the order of their indices. -/
  fields : List Field
  /-- Whether the constructor was declared, and not supplied. -/
  explicitConstructor : Bool
  /-- The constructor. -/
  constructor : Member
  /-- The methods in the order of their declaration. -/
  methods : List Member
  /-- The texts that the code refers to. -/
  strings : StringPool
  deriving DecidableEq, Repr, Inhabited

/-- The bytes of a field. -/
def Field.encode (field : Field) : Pooled Bytes := do
  let name ← Pooled.indexOf field.name
  let type ← field.type.encode
  return Bytes.ofWord32 name ++ [field.visibility.code, 0, 0, 0] ++ type

/-- The bytes of encoded items, one after the other. -/
def Pooled.concat (encode : Item → Pooled Bytes) : List Item → Pooled Bytes
  | [] => pure []
  | item :: rest => do
      let bytes ← encode item
      let later ← concat encode rest
      return bytes ++ later

/-- The bytes of a member whose code lies at an offset. -/
def Member.encode (codeOffset : Nat) (member : Member) : Pooled Bytes := do
  let name ← Pooled.indexOf member.name
  let result ← member.result.encode
  let parameters ← Pooled.concat ValueType.encode member.parameters
  return Bytes.ofWord32 name ++ result ++ Bytes.ofNat32 member.parameters.length ++
    Bytes.ofNat32 codeOffset ++ Bytes.ofNat32 member.code.encode.length ++ parameters

/-- The bytes of members whose code lies one after the other from an offset on. -/
def Member.encodeFrom (codeOffset : Nat) : List Member → Pooled Bytes
  | [] => pure []
  | member :: rest => do
      let bytes ← member.encode codeOffset
      let later ← encodeFrom (codeOffset + member.code.encode.length) rest
      return bytes ++ later

/-- The table of members whose code lies one after the other from an offset on. -/
def Member.encodeTable (codeOffset : Nat) (members : List Member) : Pooled Bytes := do
  return Bytes.ofNat32 members.length ++ (← encodeFrom codeOffset members)

/-- The code of members, one after the other. -/
def Member.codeOf (members : List Member) : Bytes :=
  members.flatMap fun member => member.code.encode

/-- The field of the next bytes. -/
def Field.read (strings : StringPool) : ByteReader Field := do
  let name ← strings.reader (← ByteReader.word32)
  let visibility ← Visibility.read
  ByteReader.skip 3
  let type ← ValueType.read strings
  return ⟨name, type, visibility⟩

namespace ModuleImage

/-- The constructor and the methods. -/
def members (image : ModuleImage) : List Member :=
  image.constructor :: image.methods

/-- The first method of a name and parameter types. -/
def method? (image : ModuleImage) (name : String) (parameters : List ValueType) : Option Member :=
  image.methods.find? fun method => method.name = name && method.parameters = parameters

/-- The flag of a declared constructor. -/
def flags (image : ModuleImage) : UInt32 :=
  if image.explicitConstructor then 1 else 0

/-- The sections of a module but the pool, whose texts they add to the pool. -/
def tables (image : ModuleImage) : Pooled (List (SectionKind × Bytes)) := do
  let name ← Pooled.indexOf image.name
  let fields ← Pooled.concat Field.encode image.fields
  let constructor ← Member.encodeTable 0 [image.constructor]
  let methods ← Member.encodeTable image.constructor.code.encode.length image.methods
  let info :=
    Bytes.ofWord32 name ++ Bytes.ofNat32 image.fields.length ++
      Bytes.ofNat32 image.methods.length ++ Bytes.ofWord32 image.flags
  return [(.typeInfo, info), (.fieldTable, fields), (.constructorTable, constructor),
    (.methodTable, methods), (.codeData, Member.codeOf image.members)]

/-- The bytes of a module; equal images have equal bytes. -/
def encode (image : ModuleImage) : Bytes :=
  let (tables, strings) := image.tables.run image.strings
  (ContainerWriter.ofSections ((.stringPool, strings.encode) :: tables)).finish

/-- What the type information of a module tells. -/
structure Info where
  /-- The qualified name of the type. -/
  name : String
  /-- The number of fields. -/
  fieldCount : Nat
  /-- The number of methods. -/
  methodCount : Nat
  /-- Whether the constructor was declared. -/
  explicitConstructor : Bool

/-- The type information of the next bytes. -/
def Info.read (strings : StringPool) : ByteReader Info := do
  let name ← strings.reader (← ByteReader.word32)
  let fieldCount ← ByteReader.word32
  let methodCount ← ByteReader.word32
  let flags ← ByteReader.word32
  ByteReader.finish
  return {
    name
    fieldCount := fieldCount.toNat
    methodCount := methodCount.toNat
    explicitConstructor := flags &&& 1 ≠ 0 }

/-- A table of items, so many of them and nothing else. -/
def readAll (reader : ByteReader Item) (count : Nat) : ByteReader (List Item) := do
  let items ← reader.times count
  ByteReader.finish
  return items

/-- A reader of module parts: a byte reader whose failures are errors of the module. -/
abbrev PartReader :=
  EStateM ModuleError Bytes

/-- A table reader as a reader of module parts. -/
def ofTable (reader : ByteReader Item) : PartReader Item := fun bytes =>
  match reader bytes with
  | .ok item rest => .ok item rest
  | .error error rest => .error (.table error) rest

/-- The result of a reader of module parts on all of a byte string. -/
def PartReader.on (reader : PartReader Item) (bytes : Bytes) : Except ModuleError Item :=
  match reader bytes with
  | .ok item _ => .ok item
  | .error error _ => .error error

/-- The code of a range of the code section. -/
def codeAt (codeData : Bytes) (offset size : Nat) : PartReader Code :=
  match Bytes.slice? codeData offset size with
  | none => throw .invalidOffset
  | some bytes =>
      match Code.decode bytes with
      | .error error => throw (.code error)
      | .ok code => pure code

/-- The member of the next bytes; a member has at most 255 parameters. -/
def readMember (strings : StringPool) (codeData : Bytes) : PartReader Member := do
  let name ← ofTable (do strings.reader (← ByteReader.word32))
  let result ← ofTable (ValueType.read strings)
  let parameterCount ← ofTable ByteReader.word32
  let codeOffset ← ofTable ByteReader.word32
  let codeSize ← ofTable ByteReader.word32
  if 255 < parameterCount.toNat then
    throw (.inconsistent s!"{name} declares {parameterCount} parameters")
  let parameters ← ofTable ((ValueType.read strings).times parameterCount.toNat)
  let code ← codeAt codeData codeOffset.toNat codeSize.toNat
  return ⟨name, result, parameters, code⟩

/-- The members of the next bytes, so many of them. -/
def readMembers (strings : StringPool) (codeData : Bytes) : Nat → PartReader (List Member)
  | 0 => pure []
  | count + 1 => do
      let member ← readMember strings codeData
      let members ← readMembers strings codeData count
      return member :: members

/-- The members of a table. -/
def readMemberTable (strings : StringPool) (codeData : Bytes) : PartReader (List Member) := do
  let count ← ofTable ByteReader.word32
  let members ← readMembers strings codeData count.toNat
  ofTable ByteReader.finish
  return members

/-- Whether an instruction refers to something that is there; otherwise what is wrong with it. -/
def instructionFault? (image : ModuleImage) (member : Member) : Instruction → Option String
  | .loadField index | .storeField index =>
      if index.toNat < image.fields.length then none
      else some s!"field index {index} out of range"
  | .loadParameter index =>
      if index.toNat < member.parameters.length then none
      else some s!"parameter index {index} out of range"
  | .pushString index | .callExternal index _ =>
      if (image.strings.get? index).isSome then none
      else some s!"string index {index} out of range"
  | _ => none

/-- What is wrong with the code of a member: its end first, then its first faulty instruction. -/
def memberFault? (image : ModuleImage) (member : Member) : Option String :=
  if member.code.getLast?.any Instruction.isReturn then
    member.code.findSome? (image.instructionFault? member)
  else some "code does not end with a return"

/-- Asks that the code of all members refers only to what is there and ends with a return. -/
def verify (image : ModuleImage) : Except ModuleError Unit :=
  match image.members.findSome? fun member =>
      (image.memberFault? member).map fun fault => s!"{member.signature}: {fault}" with
  | some fault => .error (.inconsistent fault)
  | none => .ok ()

/-- The image of a module's bytes. -/
def decode (bytes : Bytes) : Except ModuleError ModuleImage := do
  let container ← Container.decode bytes
  let strings ← (StringPool.decode (← container.read .stringPool)).mapError .table
  let info ← ((Info.read strings).on (← container.read .typeInfo)).mapError .table
  let fields ←
    ((readAll (Field.read strings) info.fieldCount).on (← container.read .fieldTable)).mapError
      .table
  let codeData ← container.read .codeData
  let constructors ←
    (readMemberTable strings codeData).on (← container.read .constructorTable)
  let methods ← (readMemberTable strings codeData).on (← container.read .methodTable)
  match constructors with
  | [constructor] =>
      if methods.length ≠ info.methodCount then
        throw (.inconsistent
          s!"type info declares {info.methodCount} methods, table has {methods.length}")
      let image : ModuleImage := {
        name := info.name
        fields
        explicitConstructor := info.explicitConstructor
        constructor
        methods
        strings }
      image.verify
      return image
  | _ =>
      throw (.inconsistent s!"expected exactly one constructor, found {constructors.length}")

end ModuleImage
end LateBinding
