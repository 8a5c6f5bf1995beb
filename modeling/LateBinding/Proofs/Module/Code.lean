import LateBinding.Module.Instruction
import LateBinding.Proofs.Outcome

/-!
# The encoding of code

Instructions take between one and six bytes.  Reading undoes writing for each instruction, whatever
bytes follow, and so for code of any length.  Nothing else is read: code has no second encoding, and bytes
that are refused begin with code as far as the instruction at which reading stops.
-/

namespace LateBinding

@[simp] theorem Instruction.length_operandBytes (instruction : Instruction) :
    instruction.operandBytes.length = instruction.operation.operandSize := by
  cases instruction <;> rfl

/-- The operands of an instruction are read back from their bytes. -/
@[simp] theorem Instruction.ofOperands?_operandBytes
    (instruction : Instruction)
    (behind : Bytes) :
    ofOperands? instruction.operation (instruction.operandBytes ++ behind) =
      some (instruction, behind) := by
  cases instruction with
  | loadParameter index => rfl
  | loadField index =>
      change some (loadField (Bytes.word16 _ _), behind) = _
      rw [Bytes.word16_ofWord16]
  | storeField index =>
      change some (storeField (Bytes.word16 _ _), behind) = _
      rw [Bytes.word16_ofWord16]
  | pushString index =>
      change some (pushString (Bytes.word32 _ _ _ _), behind) = _
      rw [Bytes.word32_ofWord32]
  | pushInt number =>
      change some (pushInt (Bytes.word32 _ _ _ _).toInt32, behind) = _
      rw [Bytes.word32_ofWord32, Int32.toInt32_toUInt32]
  | concatenate count => rfl
  | callExternal name arity =>
      change some (callExternal (Bytes.word32 _ _ _ _) arity, behind) = _
      rw [Bytes.word32_ofWord32]
  | returnValue => rfl
  | returnVoid => rfl

/-- Operands that are read are those of the instruction. -/
theorem Instruction.operandBytes_of_ofOperands?
    {operation : Operation}
    {bytes behind : Bytes}
    {instruction : Instruction}
    (read : ofOperands? operation bytes = some (instruction, behind)) :
    instruction.operation = operation ∧ instruction.operandBytes ++ behind = bytes := by
  unfold ofOperands? at read
  split at read <;> cases read <;>
    simp [Instruction.operation, operandBytes, Bytes.ofWord16_word16, Bytes.ofWord32_word32]

/-- The position at which reading has stopped. -/
def CodeError.offset : CodeError → Nat
  | unknownOperation _ offset => offset
  | truncated offset => offset

namespace Code

/-! ## One step of reading -/

section Steps

variable {code : UInt8} {operands behind : Bytes} {operation : Operation} {instruction : Instruction}

theorem decodeFrom_of_unknown
    (unknown : Operation.ofCode? code = none)
    (offset : Nat) :
    decodeFrom offset (code :: operands) = .error (.unknownOperation code offset) := by
  rw [decodeFrom, unknown]

theorem decodeFrom_of_truncated
    (known : Operation.ofCode? code = some operation)
    (missing : Instruction.ofOperands? operation operands = none)
    (offset : Nat) :
    decodeFrom offset (code :: operands) = .error (.truncated offset) := by
  rw [decodeFrom, known]
  dsimp only
  split
  · rfl
  · next read => simp [missing] at read

theorem decodeFrom_of_read
    (known : Operation.ofCode? code = some operation)
    (read : Instruction.ofOperands? operation operands = some (instruction, behind))
    (offset : Nat) :
    decodeFrom offset (code :: operands) =
      (decodeFrom (offset + 1 + operation.operandSize) behind).map (instruction :: ·) := by
  rw [decodeFrom, known]
  dsimp only
  split
  · next missing => simp [missing] at read
  · next found rest same =>
    obtain ⟨rfl, rfl⟩ : instruction = found ∧ behind = rest := by simpa [read] using same
    rfl

end Steps

/-! ## Reading what has been written -/

/-- Code is read back from its bytes, wherever they start. -/
theorem decodeFrom_encode
    (code : Code)
    (offset : Nat) :
    decodeFrom offset code.encode = .ok code := by
  induction code generalizing offset with
  | nil => simp [encode, decodeFrom]
  | cons instruction rest inductionHypothesis =>
      have bytes : encode (instruction :: rest) =
          instruction.operation.code :: (instruction.operandBytes ++ encode rest) := rfl
      rw [bytes, decodeFrom_of_read (Operation.ofCode?_code _)
        (Instruction.ofOperands?_operandBytes instruction (encode rest)), inductionHypothesis]
      rfl

/-- Code is read back from its bytes. -/
theorem decode_encode (code : Code) : decode code.encode = .ok code :=
  code.decodeFrom_encode 0

/-! ## Reading nothing else -/

/-- Bytes that are read as code are its encoding. -/
theorem encode_of_decodeFrom
    {offset : Nat}
    {bytes : Bytes}
    {code : Code}
    (read : decodeFrom offset bytes = .ok code) :
    code.encode = bytes := by
  fun_induction decodeFrom offset bytes generalizing code with
  | case1 =>
      obtain rfl := Except.ok.inj read
      rfl
  | case2 => nomatch read
  | case3 => nomatch read
  | case4 offset byte operands operation known instruction behind found inductionHypothesis =>
      obtain ⟨later, readLater, rfl⟩ := Outcome.map_eq_ok_iff.mp read
      obtain ⟨rfl, rfl⟩ := Instruction.operandBytes_of_ofOperands? found
      rw [← Operation.code_of_ofCode? known, ← inductionHypothesis readLater]
      rfl

/--
Bytes that start at an offset begin with code, and behind it stands a byte at which reading stops: the code
of no operation, or that of an operation whose operands are not all there.
-/
inductive StopsAt (start : Nat) (bytes : Bytes) : CodeError → Prop
  | unknown (code : Code) (byte : UInt8) (behind : Bytes)
      (parts : code.encode ++ byte :: behind = bytes)
      (noCode : ∀ operation : Operation, operation.code ≠ byte) :
      StopsAt start bytes (.unknownOperation byte (start + code.encode.length))
  | truncated (code : Code) (operation : Operation) (behind : Bytes)
      (parts : code.encode ++ operation.code :: behind = bytes)
      (short : behind.length < operation.operandSize) :
      StopsAt start bytes (.truncated (start + code.encode.length))

theorem length_encode_cons (instruction : Instruction) (code : Code) :
    (encode (instruction :: code)).length =
      1 + instruction.operation.operandSize + code.encode.length := by
  rw [encode, List.flatMap_cons, List.length_append, Instruction.encode, List.length_cons,
    Instruction.length_operandBytes, encode, Nat.add_comm 1]

/-- With an instruction in front, reading stops at the same byte. -/
theorem StopsAt.cons
    {start : Nat}
    {bytes : Bytes}
    {error : CodeError}
    (instruction : Instruction)
    (stops : StopsAt (start + 1 + instruction.operation.operandSize) bytes error) :
    StopsAt start (instruction.encode ++ bytes) error := by
  have front : ∀ (code : Code) (behind : Bytes),
      encode (instruction :: code) ++ behind = instruction.encode ++ (code.encode ++ behind) :=
    fun code behind => List.append_assoc _ _ _
  have position : ∀ code : Code,
      start + 1 + instruction.operation.operandSize + code.encode.length =
        start + (encode (instruction :: code)).length := by
    intro code
    rw [length_encode_cons]
    omega
  cases stops with
  | unknown code byte behind parts noCode =>
      rw [position]
      exact .unknown (instruction :: code) byte behind (parts ▸ front code _) noCode
  | truncated code operation behind parts short =>
      rw [position]
      exact .truncated (instruction :: code) operation behind (parts ▸ front code _) short

/-- Bytes that are not read as code stop the reading. -/
theorem stopsAt_of_decodeFrom
    {start : Nat}
    {bytes : Bytes}
    {error : CodeError}
    (failed : decodeFrom start bytes = .error error) :
    StopsAt start bytes error := by
  fun_induction decodeFrom start bytes with
  | case1 => nomatch failed
  | case2 start byte operands unknown =>
      obtain rfl := Except.error.inj failed
      exact .unknown [] byte operands rfl (Operation.ofCode?_eq_none_iff.mp unknown)
  | case3 start byte operands operation known missing =>
      obtain rfl := Except.error.inj failed
      obtain rfl := Operation.code_of_ofCode? known
      refine .truncated [] operation operands rfl (Nat.lt_of_not_le fun enough => ?_)
      obtain ⟨both, read⟩ := Instruction.exists_ofOperands? enough
      rw [missing] at read
      nomatch read
  | case4 start byte operands operation known instruction behind found inductionHypothesis =>
      obtain ⟨rfl, rfl⟩ := Instruction.operandBytes_of_ofOperands? found
      obtain rfl := Operation.code_of_ofCode? known
      exact (inductionHypothesis (Outcome.map_eq_error_iff.mp failed)).cons instruction

/--
Code is read from its encoding and from no other bytes.  Where bytes are refused, the error tells a position
inside of them, the bytes in front of it are code, and the byte at it is the code of no operation or else
that of an operation whose operands are not all there.
-/
theorem decode_reads_exactly (bytes : Bytes) :
    (∀ code, decode bytes = .ok code ↔ encode code = bytes) ∧
    ∀ error, decode bytes = .error error →
      ∃ inside : error.offset < bytes.length,
        (∃ code, decode (bytes.take error.offset) = .ok code) ∧
        (error = .unknownOperation bytes[error.offset] error.offset ↔
          ∀ operation : Operation, operation.code ≠ bytes[error.offset]) ∧
        (error = .truncated error.offset ↔
          ∃ operation : Operation, operation.code = bytes[error.offset]) ∧
        ∀ operation : Operation, operation.code = bytes[error.offset] →
          bytes.length < error.offset + 1 + operation.operandSize := by
  constructor
  · intro code
    refine ⟨encode_of_decodeFrom, ?_⟩
    rintro rfl
    exact decode_encode code
  · intro error failed
    cases stopsAt_of_decodeFrom failed with
    | unknown code byte behind parts noCode =>
        subst parts
        rw [Nat.zero_add]
        refine ⟨by simp [CodeError.offset], ⟨code, ?_⟩, ?_⟩
        · rw [CodeError.offset, List.take_left, decode_encode]
        · simp [CodeError.offset, noCode]
    | truncated code operation behind parts short =>
        subst parts
        rw [Nat.zero_add]
        refine ⟨by simp [CodeError.offset], ⟨code, ?_⟩, by simp [CodeError.offset],
          by simp [CodeError.offset], ?_⟩
        · rw [CodeError.offset, List.take_left, decode_encode]
        · intro other same
          obtain rfl : other = operation := by simpa [CodeError.offset] using same
          simp only [CodeError.offset, List.length_append, List.length_cons]
          omega

/-- Code behind which stands an instruction that is cut short. -/
def cutBytes : Bytes :=
  encode [.pushInt (-1), .returnValue] ++ [Operation.pushString.code, 1, 0]

theorem decode_cutBytes_reads_exactly :
    decode cutBytes = .error (.truncated 6) ∧
      ∃ code, decode (cutBytes.take 6) = .ok code ∧ encode code = cutBytes.take 6 := by
  have failed : decode cutBytes = .error (.truncated 6) := by cbv
  obtain ⟨_, ⟨code, read⟩, _, _⟩ := (decode_reads_exactly cutBytes).2 _ failed
  exact ⟨failed, code, read, ((decode_reads_exactly _).1 code).mp read⟩

end Code
end LateBinding
