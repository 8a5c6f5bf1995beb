import LateBinding.Bytes.Word
import LateBinding.Module.Error

/-!
# Instructions

The instructions of a small stack machine and their encoding: one byte for the operation and the
operands in little-endian order behind it.
-/

namespace LateBinding

/-- The operations of the machine. -/
inductive Operation where
  /-- Pushes an argument. -/
  | loadParameter
  /-- Pushes a field. -/
  | loadField
  /-- Pops a value into a field. -/
  | storeField
  /-- Pushes a text. -/
  | pushString
  /-- Pushes an integer. -/
  | pushInt
  /-- Replaces the topmost values by the text of all of them. -/
  | concatenate
  /-- Calls an external function. -/
  | callExternal
  /-- Returns the topmost value. -/
  | returnValue
  /-- Returns nothing. -/
  | returnVoid
  deriving DecidableEq, Repr, Inhabited

namespace Operation

/-- The code of an operation. -/
def code : Operation → UInt8
  | loadParameter => 0x01
  | loadField => 0x02
  | storeField => 0x03
  | pushString => 0x10
  | pushInt => 0x11
  | concatenate => 0x20
  | callExternal => 0x30
  | returnValue => 0x40
  | returnVoid => 0x41

/-- The operation of a code. -/
def ofCode? (code : UInt8) : Option Operation :=
  if code = 0x01 then some loadParameter
  else if code = 0x02 then some loadField
  else if code = 0x03 then some storeField
  else if code = 0x10 then some pushString
  else if code = 0x11 then some pushInt
  else if code = 0x20 then some concatenate
  else if code = 0x30 then some callExternal
  else if code = 0x40 then some returnValue
  else if code = 0x41 then some returnVoid
  else none

@[simp]
theorem ofCode?_code (operation : Operation) : ofCode? operation.code = some operation := by
  cases operation <;> rfl

theorem code_of_ofCode?
    {code : UInt8}
    {operation : Operation}
    (known : ofCode? code = some operation) :
    operation.code = code := by
  cases operation <;> grind [ofCode?, Operation.code]

@[simp]
theorem code_inj {operation other : Operation} : operation.code = other.code ↔ operation = other := by
  constructor
  · intro same
    have known := ofCode?_code operation
    rw [same, ofCode?_code] at known
    exact (Option.some.inj known).symm
  · rintro rfl
    rfl

theorem ofCode?_eq_none_iff {code : UInt8} :
    ofCode? code = none ↔ ∀ operation : Operation, operation.code ≠ code := by
  constructor
  · rintro unknown operation rfl
    rw [ofCode?_code] at unknown
    nomatch unknown
  · intro noCode
    cases known : ofCode? code with
    | none => rfl
    | some operation => exact absurd (code_of_ofCode? known) (noCode operation)

/-- The mnemonic of an operation. -/
def mnemonic : Operation → String
  | loadParameter => "LOAD_PARAM"
  | loadField => "LOAD_FIELD"
  | storeField => "STORE_FIELD"
  | pushString => "PUSH_STR"
  | pushInt => "PUSH_INT"
  | concatenate => "CONCAT"
  | callExternal => "CALL_EXTERNAL"
  | returnValue => "RETURN"
  | returnVoid => "RETURN_VOID"

/-- The number of bytes that the operands of an operation take. -/
def operandSize : Operation → Nat
  | loadParameter => 1
  | loadField => 2
  | storeField => 2
  | pushString => 4
  | pushInt => 4
  | concatenate => 1
  | callExternal => 5
  | returnValue => 0
  | returnVoid => 0

end Operation

/-- An instruction of the machine. -/
inductive Instruction where
  /-- Pushes the argument of an index. -/
  | loadParameter (index : UInt8)
  /-- Pushes the field of an index. -/
  | loadField (index : UInt16)
  /-- Pops a value into the field of an index. -/
  | storeField (index : UInt16)
  /-- Pushes the text of an index. -/
  | pushString (index : UInt32)
  /-- Pushes an integer. -/
  | pushInt (number : Int32)
  /-- Replaces the topmost values, so many of them, by the text of all of them. -/
  | concatenate (count : UInt8)
  /-- Calls the external function whose name has an index, with a number of arguments. -/
  | callExternal (name : UInt32) (arity : UInt8)
  /-- Returns the topmost value. -/
  | returnValue
  /-- Returns nothing. -/
  | returnVoid
  deriving DecidableEq, Repr, Inhabited

namespace Instruction

/-- The operation of an instruction. -/
def operation : Instruction → Operation
  | loadParameter _ => .loadParameter
  | loadField _ => .loadField
  | storeField _ => .storeField
  | pushString _ => .pushString
  | pushInt _ => .pushInt
  | concatenate _ => .concatenate
  | callExternal _ _ => .callExternal
  | returnValue => .returnValue
  | returnVoid => .returnVoid

/-- Whether an instruction leaves the member. -/
def isReturn : Instruction → Bool
  | returnValue => true
  | returnVoid => true
  | _ => false

/-- The text of an instruction: the mnemonic and the operands, indices of texts with a mark. -/
def text (instruction : Instruction) : String :=
  let mnemonic := instruction.operation.mnemonic
  match instruction with
  | loadParameter index => s!"{mnemonic} {index}"
  | loadField index => s!"{mnemonic} {index}"
  | storeField index => s!"{mnemonic} {index}"
  | pushString index => s!"{mnemonic} #{index}"
  | pushInt number => s!"{mnemonic} {number.toInt}"
  | concatenate count => s!"{mnemonic} {count}"
  | callExternal name arity => s!"{mnemonic} #{name} {arity}"
  | returnValue => mnemonic
  | returnVoid => mnemonic

/-- The bytes of an instruction's operands. -/
def operandBytes : Instruction → Bytes
  | loadParameter index => [index]
  | loadField index => Bytes.ofWord16 index
  | storeField index => Bytes.ofWord16 index
  | pushString index => Bytes.ofWord32 index
  | pushInt number => Bytes.ofWord32 number.toUInt32
  | concatenate count => [count]
  | callExternal name arity => Bytes.ofWord32 name ++ [arity]
  | returnValue => []
  | returnVoid => []

/-- The bytes of an instruction. -/
def encode (instruction : Instruction) : Bytes :=
  instruction.operation.code :: instruction.operandBytes

/-- The instruction of an operation whose operands are the next bytes, and the bytes behind them. -/
def ofOperands? : Operation → Bytes → Option (Instruction × Bytes)
  | .loadParameter, byte0 :: rest => some (loadParameter byte0, rest)
  | .loadField, byte0 :: byte1 :: rest => some (loadField (Bytes.word16 byte0 byte1), rest)
  | .storeField, byte0 :: byte1 :: rest => some (storeField (Bytes.word16 byte0 byte1), rest)
  | .pushString, byte0 :: byte1 :: byte2 :: byte3 :: rest =>
      some (pushString (Bytes.word32 byte0 byte1 byte2 byte3), rest)
  | .pushInt, byte0 :: byte1 :: byte2 :: byte3 :: rest =>
      some (pushInt (Bytes.word32 byte0 byte1 byte2 byte3).toInt32, rest)
  | .concatenate, byte0 :: rest => some (concatenate byte0, rest)
  | .callExternal, byte0 :: byte1 :: byte2 :: byte3 :: byte4 :: rest =>
      some (callExternal (Bytes.word32 byte0 byte1 byte2 byte3) byte4, rest)
  | .returnValue, rest => some (returnValue, rest)
  | .returnVoid, rest => some (returnVoid, rest)
  | _, _ => none

/-- Operands take as many bytes as their operation says. -/
theorem length_of_ofOperands?
    {operation : Operation}
    {bytes rest : Bytes}
    {instruction : Instruction}
    (read : ofOperands? operation bytes = some (instruction, rest)) :
    bytes.length = operation.operandSize + rest.length := by
  unfold ofOperands? at read
  split at read <;> simp_all [Operation.operandSize] <;> omega

/-- Operands are read wherever there are enough bytes. -/
theorem exists_ofOperands?
    {operation : Operation}
    {bytes : Bytes}
    (enough : operation.operandSize ≤ bytes.length) :
    ∃ both, ofOperands? operation bytes = some both := by
  cases operation with
  | loadParameter | concatenate =>
      match bytes, enough with
      | _ :: _, _ => exact ⟨_, rfl⟩
  | loadField | storeField =>
      match bytes, enough with
      | _ :: _ :: _, _ => exact ⟨_, rfl⟩
  | pushString | pushInt =>
      match bytes, enough with
      | _ :: _ :: _ :: _ :: _, _ => exact ⟨_, rfl⟩
  | callExternal =>
      match bytes, enough with
      | _ :: _ :: _ :: _ :: _ :: _, _ => exact ⟨_, rfl⟩
  | returnValue | returnVoid => exact ⟨_, rfl⟩

end Instruction

/-- The code of a member. -/
abbrev Code :=
  List Instruction

/-- The bytes of a member's code. -/
def Code.encode (code : Code) : Bytes :=
  code.flatMap Instruction.encode

/-- The instructions of bytes that start at an offset. -/
def Code.decodeFrom (offset : Nat) (bytes : Bytes) : Except CodeError Code :=
  match bytes with
  | [] => .ok []
  | code :: operands =>
      match Operation.ofCode? code with
      | none => .error (.unknownOperation code offset)
      | some operation =>
          match _read : Instruction.ofOperands? operation operands with
          | none => .error (.truncated offset)
          | some (instruction, rest) =>
              (decodeFrom (offset + 1 + operation.operandSize) rest).map (instruction :: ·)
termination_by bytes.length
decreasing_by
  have := Instruction.length_of_ofOperands? _read
  simp only [List.length_cons]
  omega

/-- The instructions of bytes. -/
def Code.decode (bytes : Bytes) : Except CodeError Code :=
  decodeFrom 0 bytes

end LateBinding
