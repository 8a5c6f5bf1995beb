import LateBinding.Calling.Machine
import LateBinding.Proofs.Module.Verification

/-!
# Execution of sound code

Sound code whose external calls are bound runs on a frame with as many arguments, and a machine with
as many fields, as it was checked against.  Each of its instructions either leads to a machine with as
many fields, or finds the stack too small; so the code never runs past its end.
-/

namespace LateBinding

/-- The printing function with one argument is all that an instruction calls. -/
def Instruction.CallsPrinter (strings : StringPool) : Instruction → Prop
  | callExternal name arity => (strings.get? name).getD "" = printFunction ∧ arity = 1
  | _ => True

/-- The printing function with one argument is all that code calls. -/
def Code.IsBound (strings : StringPool) (code : Code) : Prop :=
  ∀ instruction ∈ code, instruction.CallsPrinter strings

namespace MethodTable

theorem unboundCall?_eq_none_iff
    (strings : StringPool)
    (member : Member)
    (instruction : Instruction) :
    unboundCall? strings member instruction = none ↔ instruction.CallsPrinter strings := by
  cases instruction <;> simp [unboundCall?, Instruction.CallsPrinter]

theorem firstUnboundCall?_eq_none_iff (image : ModuleImage) :
    firstUnboundCall? image = none ↔
      ∀ member ∈ image.members, member.code.IsBound image.strings := by
  simp only [firstUnboundCall?, List.findSome?_eq_none_iff, unboundCall?_eq_none_iff]
  rfl

end MethodTable

/-- A machine keeps its fields, and the only fault is a stack that is too small. -/
def StepResult.IsSafe (fieldCount : Nat) (returns : Bool) : StepResult → Prop
  | next after => after.fields.length = fieldCount ∧ returns = false
  | done _ after => after.fields.length = fieldCount
  | fault reason after => after.fields.length = fieldCount ∧ reason = "stack underflow"

namespace Machine

variable {frame : Frame}

theorem pushOr_isSafe
    {machine : Machine}
    {reason : String}
    {found : Option Value}
    (there : found.isSome) :
    (machine.pushOr reason found).IsSafe machine.fields.length false := by
  cases found with
  | none => simp at there
  | some value => exact ⟨rfl, rfl⟩

/-- An instruction that refers inside the frame and the machine is safe. -/
theorem step_isSafe
    {machine : Machine}
    {instruction : Instruction}
    (refers : instruction.RefersInside machine.fields.length frame.arguments.length frame.strings)
    (calls : instruction.CallsPrinter frame.strings) :
    (machine.step frame instruction).IsSafe machine.fields.length instruction.isReturn := by
  cases instruction with
  | loadParameter index =>
      apply pushOr_isSafe
      rw [List.getElem?_eq_getElem refers]
      rfl
  | loadField index =>
      apply pushOr_isSafe
      rw [List.getElem?_eq_getElem refers]
      rfl
  | storeField index =>
      have inside : index.toNat < machine.fields.length := refers
      rw [step]
      cases machine.stack with
      | nil => exact ⟨rfl, rfl⟩
      | cons value rest =>
          simp only [if_pos inside]
          exact ⟨List.length_set, rfl⟩
  | pushString index =>
      apply pushOr_isSafe
      rw [Option.isSome_map]
      exact refers
  | pushInt number => exact ⟨rfl, rfl⟩
  | concatenate count =>
      rw [step]
      split
      · exact ⟨rfl, rfl⟩
      · exact ⟨rfl, rfl⟩
  | callExternal name arity =>
      obtain ⟨printer, one⟩ := calls
      simp only [step, printer, one]
      cases machine.stack with
      | nil => exact ⟨rfl, rfl⟩
      | cons line rest => exact ⟨rfl, rfl⟩
  | returnValue =>
      rw [step]
      cases machine.stack with
      | nil => exact ⟨rfl, rfl⟩
      | cons value rest => rfl
  | returnVoid => rfl

/--
Sound code keeps the number of fields and fails only on a stack that is too small.  The induction is
on the code: what is left of it is sound again, since its last instruction stays the same.
-/
theorem execute_isSafe
    {code : Code}
    {machine : Machine}
    (sound : code.IsSound machine.fields.length frame.arguments.length frame.strings)
    (bound : code.IsBound frame.strings) :
    (execute frame code machine).2.fields.length = machine.fields.length ∧
      ∀ reason, (execute frame code machine).1 = .error reason → reason = "stack underflow" := by
  induction code generalizing machine with
  | nil =>
      have ends := sound.ends
      simp at ends
  | cons instruction rest inductionHypothesis =>
      have safe := step_isSafe (sound.refers instruction List.mem_cons_self)
        (bound instruction List.mem_cons_self)
      rw [execute]
      cases stepped : machine.step frame instruction with
      | next after =>
          rw [stepped] at safe
          obtain ⟨kept, continues⟩ := safe
          have restSound :
              Code.IsSound after.fields.length frame.arguments.length frame.strings rest := by
            constructor
            · have ends := sound.ends
              cases rest with
              | nil => simp [continues] at ends
              | cons second later => simpa using ends
            · intro later present
              rw [kept]
              exact sound.refers later (List.mem_cons_of_mem _ present)
          rw [← kept]
          apply inductionHypothesis restSound
          intro later present
          exact bound later (List.mem_cons_of_mem _ present)
      | done value after =>
          rw [stepped] at safe
          exact ⟨safe, fun reason impossible => nomatch impossible⟩
      | fault reason after =>
          rw [stepped] at safe
          obtain ⟨kept, underflow⟩ := safe
          refine ⟨kept, ?_⟩
          intro found failed
          obtain rfl := Except.error.inj failed
          exact underflow

end Machine
end LateBinding
