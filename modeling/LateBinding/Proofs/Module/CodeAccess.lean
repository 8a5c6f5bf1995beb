import LateBinding.Proofs.Bytes.Access
import LateBinding.Proofs.Module.Code

/-!
# Code by position

The instructions of a code are read with a position that moves over its bytes.  The operation is looked at
while the position is inside, and the operands behind the check that they are there.
-/

namespace LateBinding
namespace Code

/-- The operands at a position, so many bytes, and the position behind them. -/
def operandsAt (bytes : Bytes) (start position size : Nat) : Access CodeError (Bytes × Nat) := do
  let finish ← Access.sum? position size
  match bytes.window? position finish with
  | none => throw (.truncated start)
  | some operands => return (operands, finish)

/-- The instruction whose operands stand at a position, and the position behind it. -/
def instructionAt
    (bytes : Bytes)
    (start position : Nat) :
    Operation → Access CodeError (Instruction × Nat)
  | .loadParameter => do
      let (operands, next) ← operandsAt bytes start position 1
      return (.loadParameter (← operands.byte? 0), next)
  | .concatenate => do
      let (operands, next) ← operandsAt bytes start position 1
      return (.concatenate (← operands.byte? 0), next)
  | .loadField => do
      let (operands, next) ← operandsAt bytes start position 2
      return (.loadField (← operands.word16? 0), next)
  | .storeField => do
      let (operands, next) ← operandsAt bytes start position 2
      return (.storeField (← operands.word16? 0), next)
  | .pushString => do
      let (operands, next) ← operandsAt bytes start position 4
      return (.pushString (← operands.word32? 0), next)
  | .pushInt => do
      let (operands, next) ← operandsAt bytes start position 4
      return (.pushInt (← operands.word32? 0).toInt32, next)
  | .callExternal => do
      let (operands, next) ← operandsAt bytes start position 5
      return (.callExternal (← operands.word32? 0) (← operands.byte? 4), next)
  | .returnValue => return (.returnValue, position)
  | .returnVoid => return (.returnVoid, position)

/-- The instructions from a position on. -/
def decodeAt (bytes : Bytes) (position : Nat) : Access CodeError Code :=
  if position < bytes.length then do
    let code ← bytes.byte? position
    match Operation.ofCode? code with
    | none => throw (.unknownOperation code position)
    | some operation =>
        let behind ← Access.sum? position 1
        let (instruction, _) ← instructionAt bytes position behind operation
        let rest ← decodeAt bytes (position + 1 + operation.operandSize)
        return instruction :: rest
  else return []
termination_by bytes.length - position

variable {bytes front behind : Bytes} {position size : Nat} {operation : Operation}

theorem operandsAt_gives
    (addressable : bytes.IsAddressable)
    (start : Nat)
    (inside : position + front.length ≤ bytes.length)
    (parts : bytes.drop position = front ++ behind) :
    (operandsAt bytes start position front.length).Gives (.ok (front, position + front.length)) := by
  unfold Bytes.IsAddressable at addressable
  refine (Access.gives_of_some (if_pos (by omega))).bind_ok ?_
  rw [Bytes.window?, if_pos ⟨Nat.le_add_right _ _, inside⟩, parts, Nat.add_sub_cancel_left,
    List.take_left]
  exact Access.gives_pure _

theorem operandsAt_gives_truncated
    (addressable : bytes.IsAddressable)
    (start : Nat)
    (inside : position ≤ bytes.length)
    (short : size < 2 ^ 8)
    (outside : bytes.length < position + size) :
    (operandsAt bytes start position size).Gives (.error (.truncated start)) := by
  unfold Bytes.IsAddressable at addressable
  refine (Access.gives_of_some (if_pos (by omega))).bind_ok ?_
  rw [Bytes.window?, if_neg (by omega)]
  exact Access.gives_throw _

/-- Operands that are there are those that are taken from the front. -/
theorem instructionAt_gives
    (addressable : bytes.IsAddressable)
    (start : Nat)
    (inside : position + operation.operandSize ≤ bytes.length) :
    ∃ instruction,
      (instructionAt bytes start position operation).Gives
        (.ok (instruction, position + operation.operandSize)) ∧
      Instruction.ofOperands? operation (bytes.drop position) =
        some (instruction, bytes.drop (position + operation.operandSize)) := by
  obtain ⟨front, length, parts⟩ := Bytes.exists_front inside
  rw [← length] at inside
  have there := operandsAt_gives addressable start inside parts
  rw [parts]
  cases operation with
  | loadParameter =>
      match front, length with
      | [byte0], _ => exact ⟨.loadParameter byte0, there.bind_ok (Access.gives_pure _), rfl⟩
  | loadField =>
      match front, length with
      | [byte0, byte1], _ => exact ⟨_, there.bind_ok (Access.gives_pure _), rfl⟩
  | storeField =>
      match front, length with
      | [byte0, byte1], _ => exact ⟨_, there.bind_ok (Access.gives_pure _), rfl⟩
  | pushString =>
      match front, length with
      | [byte0, byte1, byte2, byte3], _ => exact ⟨_, there.bind_ok (Access.gives_pure _), rfl⟩
  | pushInt =>
      match front, length with
      | [byte0, byte1, byte2, byte3], _ => exact ⟨_, there.bind_ok (Access.gives_pure _), rfl⟩
  | concatenate =>
      match front, length with
      | [byte0], _ => exact ⟨_, there.bind_ok (Access.gives_pure _), rfl⟩
  | callExternal =>
      match front, length with
      | [byte0, byte1, byte2, byte3, byte4], _ =>
          exact ⟨_, there.bind_ok (Access.gives_pure _), rfl⟩
  | returnValue =>
      match front, length with
      | [], _ => exact ⟨_, Access.gives_pure _, rfl⟩
  | returnVoid =>
      match front, length with
      | [], _ => exact ⟨_, Access.gives_pure _, rfl⟩

/-- Operands that are not there are missed. -/
theorem instructionAt_gives_truncated
    (addressable : bytes.IsAddressable)
    (start : Nat)
    (inside : position ≤ bytes.length)
    (outside : bytes.length < position + operation.operandSize) :
    (instructionAt bytes start position operation).Gives (.error (.truncated start)) ∧
      Instruction.ofOperands? operation (bytes.drop position) = none := by
  constructor
  · cases operation with
    | returnValue => exact absurd outside (Nat.not_lt_of_le inside)
    | returnVoid => exact absurd outside (Nat.not_lt_of_le inside)
    | _ => exact (operandsAt_gives_truncated addressable start inside (by decide) outside).bind_error
  · cases read : Instruction.ofOperands? operation (bytes.drop position) with
    | none => rfl
    | some both =>
        have length := Instruction.length_of_ofOperands? read
        rw [List.length_drop] at length
        omega

/-- Reading code by position comes to the same as reading it from the front. -/
theorem decodeAt_gives
    (addressable : bytes.IsAddressable)
    (position : Nat) :
    (decodeAt bytes position).Gives (decodeFrom position (bytes.drop position)) := by
  -- Every instruction takes at least one byte, so the bytes behind the position become fewer.
  induction remaining : bytes.length - position using Nat.strongRecOn
    generalizing position with
  | ind _ inductionHypothesis =>
    subst remaining
    rw [decodeAt]
    split
    · next inside =>
      rw [List.drop_eq_getElem_cons inside]
      refine (Access.gives_of_some (Bytes.byte?_eq_some inside)).bind_ok ?_
      cases known : Operation.ofCode? bytes[position] with
      | none =>
          rw [decodeFrom_of_unknown known]
          exact Access.gives_throw _
      | some operation =>
          have behind : Access.sum? position 1 = some (position + 1) :=
            if_pos (by unfold Bytes.IsAddressable at addressable; omega)
          refine (Access.gives_of_some behind).bind_ok ?_
          by_cases outside : bytes.length < position + 1 + operation.operandSize
          · obtain ⟨gives, missing⟩ :=
              instructionAt_gives_truncated addressable position inside outside
            rw [decodeFrom_of_truncated known missing]
            exact gives.bind_error
          · obtain ⟨instruction, gives, read⟩ :=
              instructionAt_gives addressable position (Nat.le_of_not_lt outside)
            have later := inductionHypothesis
              (bytes.length - (position + 1 + operation.operandSize)) (by omega) _ rfl
            rw [decodeFrom_of_read known read]
            exact gives.bind_ok (later.map (instruction :: ·))
    · next outside =>
      rw [List.drop_of_length_le (Nat.le_of_not_lt outside), decodeFrom]
      exact Access.gives_pure _

end Code
end LateBinding
