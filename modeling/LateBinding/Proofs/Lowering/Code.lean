import LateBinding.Proofs.Descriptor.Interpretation
import LateBinding.Proofs.Module.StringPool
import LateBinding.Proofs.Outcome
import Mathlib.Data.List.Forall2

/-!
# The code of statements

Which code statements have, said by rules over a pool that is complete.  Lowering adds to the pool while
it emits code, but what it has emitted keeps its meaning in every later pool; so the code of a body can be
judged by the rules on the pool of the finished module.
-/

namespace LateBinding

/-- Operands of a type and the instruction that pushes their value. -/
inductive OperandCode (context : MemberContext) (strings : StringPool) :
    Operand → ValueType → Instruction → Prop
  | field {name : String} {index : Nat} {field : Field} :
      findField? context.fields name = some (index, field) →
      OperandCode context strings (.field name) field.type (.loadField (UInt16.ofNat index))
  | parameter {number : Nat} {type : ValueType} :
      parameterType? context.parameters number = some type →
      OperandCode context strings (.parameter number) type
        (.loadParameter (UInt8.ofNat (number - 1)))
  | string {text : String} {index : UInt32} :
      strings.get? index = some text →
      OperandCode context strings (.string text) .string (.pushString index)
  | int {number : Int32} :
      OperandCode context strings (.int number) .int (.pushInt number)

/-- Operands one after the other, of any types. -/
def OperandsCode (context : MemberContext) (strings : StringPool) :
    List Operand → Code → Prop :=
  List.Forall₂ fun operand instruction => ∃ type, OperandCode context strings operand type instruction

/-- The operands of a printed line and the code that leaves the line on the stack. -/
inductive LineCode (context : MemberContext) (strings : StringPool) : List Operand → Code → Prop
  | empty {index : UInt32} :
      strings.get? index = some "" →
      LineCode context strings [] [.pushString index]
  | single {operand : Operand} {instruction : Instruction} :
      OperandsCode context strings [operand] [instruction] →
      LineCode context strings [operand] [instruction]
  | several {operands : List Operand} {code : Code} :
      operands.length ≤ 255 →
      OperandsCode context strings operands code →
      LineCode context strings operands (code ++ [.concatenate (UInt8.ofNat operands.length)])

/-- The statements of a member and its code. -/
inductive BodyCode (context : MemberContext) (strings : StringPool) : List Statement → Code → Prop
  | nil :
      context.result = .void →
      BodyCode context strings [] [.returnVoid]
  | assign {name : String} {number index : Nat} {field : Field}
      {rest : List Statement} {later : Code} :
      findField? context.fields name = some (index, field) →
      parameterType? context.parameters number = some field.type →
      BodyCode context strings rest later →
      BodyCode context strings (.assign name number :: rest)
        ([.loadParameter (UInt8.ofNat (number - 1)), .storeField (UInt16.ofNat index)] ++ later)
  | print {operands : List Operand} {line later : Code} {index : UInt32} {rest : List Statement} :
      LineCode context strings operands line →
      strings.get? index = some printFunction →
      BodyCode context strings rest later →
      BodyCode context strings (.print operands :: rest) (line ++ [.callExternal index 1] ++ later)
  | returnsNothing :
      context.result = .void →
      BodyCode context strings [.returns none] [.returnVoid]
  | returnsValue {operand : Operand} {instruction : Instruction} :
      context.result ≠ .void →
      OperandCode context strings operand context.result instruction →
      BodyCode context strings [.returns (some operand)] [instruction, .returnValue]

/-! ## What lowering emits -/

/-- An index that has been given to a text has the text in every later pool. -/
theorem StringPool.get?_of_extends_add
    {larger pool : StringPool}
    {text : String}
    (extension : larger.Extends (pool.add text).2)
    (small : larger.size ≤ 2 ^ 32) :
    larger.get? (pool.add text).1 = some text := by
  have holds := extension.holds (holds_add pool text)
  have found := get?_add_of_holds holds small
  rwa [add_eq_of_extends extension] at found

/-- A step of lowering extends the pool, and what it emits satisfies a rule on all later pools. -/
def Emits
    (pool later : StringPool)
    (rule : StringPool → Prop) : Prop :=
  later.Extends pool ∧
    ∀ strings : StringPool, strings.Extends later → strings.size ≤ 2 ^ 32 → rule strings

namespace Emits

variable {pool between later : StringPool} {rule other : StringPool → Prop}

theorem same (holds : ∀ strings, rule strings) : Emits pool pool rule :=
  ⟨.refl pool, fun strings _ _ => holds strings⟩

/-- What two steps emit satisfies both rules on all later pools. -/
theorem both
    (first : Emits pool between rule)
    (second : Emits between later other) :
    Emits pool later fun strings => rule strings ∧ other strings :=
  ⟨second.1.trans first.1, fun strings extension small =>
    ⟨first.2 strings (extension.trans second.1) small, second.2 strings extension small⟩⟩

theorem weaken
    (emits : Emits pool later rule)
    (implies : ∀ strings, rule strings → other strings) :
    Emits pool later other :=
  ⟨emits.1, fun strings extension small => implies strings (emits.2 strings extension small)⟩

theorem indexOf (pool : StringPool) (text : String) :
    Emits pool (pool.add text).2 fun strings => strings.get? (pool.add text).1 = some text :=
  ⟨pool.add_extends text, fun _ extension small => StringPool.get?_of_extends_add extension small⟩

end Emits

/-- Giving an index to a text emits the index. -/
theorem Lowering.emits_of_indexOf
    {pool later : StringPool}
    {text : String}
    {index : UInt32}
    (lowered : Lowering.indexOf text pool = .ok (index, later)) :
    Emits pool later fun strings => strings.get? index = some text := by
  obtain ⟨rfl, rfl⟩ := Prod.mk.inj (Except.ok.inj lowered)
  exact Emits.indexOf pool text

namespace MemberContext

variable {context : MemberContext} {pool later : StringPool}

theorem emits_of_lowerOperand
    {operand : Operand}
    {instruction : Instruction}
    {type : ValueType}
    (lowered : context.lowerOperand operand pool = .ok ((instruction, type), later)) :
    Emits pool later fun strings => OperandCode context strings operand type instruction := by
  cases operand with
  | field name =>
      cases found : findField? context.fields name with
      | none => simp [lowerOperand, found] at lowered
      | some both =>
          rw [lowerOperand, found] at lowered
          obtain ⟨same, rfl⟩ := Lowering.pure_eq_ok_iff.mp lowered
          obtain ⟨rfl, rfl⟩ := Prod.mk.inj same
          exact Emits.same fun strings => .field found
  | parameter number =>
      cases found : parameterType? context.parameters number with
      | none => simp [lowerOperand, found] at lowered
      | some source =>
          rw [lowerOperand, found] at lowered
          obtain ⟨same, rfl⟩ := Lowering.pure_eq_ok_iff.mp lowered
          obtain ⟨rfl, rfl⟩ := Prod.mk.inj same
          exact Emits.same fun strings => .parameter found
  | string text =>
      obtain ⟨index, between, added, lowered⟩ := Lowering.bind_eq_ok_iff.mp lowered
      obtain ⟨same, rfl⟩ := Lowering.pure_eq_ok_iff.mp lowered
      obtain ⟨rfl, rfl⟩ := Prod.mk.inj same
      exact (Lowering.emits_of_indexOf added).weaken fun strings found => .string found
  | int number =>
      obtain ⟨same, rfl⟩ := Lowering.pure_eq_ok_iff.mp lowered
      obtain ⟨rfl, rfl⟩ := Prod.mk.inj same
      exact Emits.same fun strings => .int

theorem emits_of_lowerOperands
    {operands : List Operand}
    {code : Code}
    (lowered : context.lowerOperands operands pool = .ok (code, later)) :
    Emits pool later fun strings => OperandsCode context strings operands code := by
  induction operands generalizing pool code with
  | nil =>
      obtain ⟨rfl, rfl⟩ := Lowering.pure_eq_ok_iff.mp lowered
      exact Emits.same fun strings => .nil
  | cons operand rest inductionHypothesis =>
      obtain ⟨⟨instruction, type⟩, between, first, lowered⟩ := Lowering.bind_eq_ok_iff.mp lowered
      obtain ⟨following, _, second, lowered⟩ := Lowering.bind_eq_ok_iff.mp lowered
      obtain ⟨rfl, rfl⟩ := Lowering.pure_eq_ok_iff.mp lowered
      apply ((emits_of_lowerOperand first).both (inductionHypothesis second)).weaken
      rintro strings ⟨head, tail⟩
      exact .cons ⟨type, head⟩ tail

theorem emits_of_lowerLine
    {operands : List Operand}
    {code : Code}
    (lowered : context.lowerLine operands pool = .ok (code, later)) :
    Emits pool later fun strings => LineCode context strings operands code := by
  rw [lowerLine] at lowered
  split at lowered
  · next empty =>
    obtain rfl := List.isEmpty_iff.mp empty
    obtain ⟨index, between, added, lowered⟩ := Lowering.bind_eq_ok_iff.mp lowered
    obtain ⟨rfl, rfl⟩ := Lowering.pure_eq_ok_iff.mp lowered
    exact (Lowering.emits_of_indexOf added).weaken fun strings found => .empty found
  · next nonempty =>
    split at lowered
    · simp at lowered
    · next few =>
      obtain ⟨pushes, between, pushed, lowered⟩ := Lowering.bind_eq_ok_iff.mp lowered
      split at lowered
      · obtain ⟨rfl, rfl⟩ := Lowering.pure_eq_ok_iff.mp lowered
        apply (emits_of_lowerOperands pushed).weaken
        intro strings has
        exact .several (Nat.le_of_not_lt few) has
      · next one =>
        obtain ⟨rfl, rfl⟩ := Lowering.pure_eq_ok_iff.mp lowered
        apply (emits_of_lowerOperands pushed).weaken
        intro strings has
        -- There is neither no operand nor more than one: its code is the code of the line.
        match operands, has with
        | [operand], .cons pushes .nil => exact .single (.cons pushes .nil)
        | [], _ => simp at nonempty
        | _ :: _ :: _, _ => simp at one

/-- An assignment has code when there are a field and a parameter of one type. -/
theorem code_of_lowerAssignment
    {name : String}
    {number : Nat}
    {code : Code}
    (lowered : context.lowerAssignment name number pool = .ok (code, later)) :
    later = pool ∧ ∃ index field,
      findField? context.fields name = some (index, field) ∧
      parameterType? context.parameters number = some field.type ∧
      code = [.loadParameter (UInt8.ofNat (number - 1)), .storeField (UInt16.ofNat index)] := by
  cases found : findField? context.fields name with
  | none => simp [lowerAssignment, found] at lowered
  | some target =>
      obtain ⟨index, field⟩ := target
      cases given : parameterType? context.parameters number with
      | none => simp [lowerAssignment, found, given] at lowered
      | some source =>
          by_cases sameType : source = field.type
          · subst sameType
            simp only [lowerAssignment, found, given, ne_eq, not_true_eq_false, if_false] at lowered
            obtain ⟨rfl, rfl⟩ := Lowering.pure_eq_ok_iff.mp lowered
            exact ⟨rfl, index, field, rfl, rfl, rfl⟩
          · simp [lowerAssignment, found, given, sameType] at lowered

theorem emits_of_lowerPrint
    {operands : List Operand}
    {code : Code}
    (lowered : context.lowerPrint operands pool = .ok (code, later)) :
    ∃ line index, code = line ++ [.callExternal index 1] ∧
      Emits pool later fun strings =>
        LineCode context strings operands line ∧ strings.get? index = some printFunction := by
  obtain ⟨line, between, lined, lowered⟩ := Lowering.bind_eq_ok_iff.mp lowered
  obtain ⟨index, _, added, lowered⟩ := Lowering.bind_eq_ok_iff.mp lowered
  obtain ⟨rfl, rfl⟩ := Lowering.pure_eq_ok_iff.mp lowered
  exact ⟨line, index, rfl, (emits_of_lowerLine lined).both (Lowering.emits_of_indexOf added)⟩

theorem emits_of_lowerReturn
    {value : Option Operand}
    {code : Code}
    (lowered : context.lowerReturn value pool = .ok (code, later)) :
    Emits pool later fun strings => BodyCode context strings [.returns value] code := by
  cases value with
  | none =>
      rw [lowerReturn] at lowered
      split at lowered
      · simp at lowered
      · next void =>
        obtain ⟨rfl, rfl⟩ := Lowering.pure_eq_ok_iff.mp lowered
        exact Emits.same fun strings => .returnsNothing (not_not.mp void)
  | some operand =>
      rw [lowerReturn] at lowered
      split at lowered
      · simp at lowered
      · next valued =>
        obtain ⟨⟨instruction, type⟩, _, pushed, lowered⟩ := Lowering.bind_eq_ok_iff.mp lowered
        dsimp only at lowered
        split at lowered
        · simp at lowered
        · next sameType =>
          obtain ⟨rfl, rfl⟩ := Lowering.pure_eq_ok_iff.mp lowered
          obtain rfl := not_not.mp sameType
          apply (emits_of_lowerOperand pushed).weaken
          intro strings has
          exact .returnsValue valued has

/-- What lowering emits for a body is its code on every later pool. -/
theorem emits_of_lowerBody
    {statements : List Statement}
    {code : Code}
    (lowered : context.lowerBody statements pool = .ok (code, later)) :
    Emits pool later fun strings => BodyCode context strings statements code := by
  induction statements generalizing pool code with
  | nil =>
      rw [lowerBody] at lowered
      split at lowered
      · simp at lowered
      · next void =>
        obtain ⟨rfl, rfl⟩ := Lowering.pure_eq_ok_iff.mp lowered
        exact Emits.same fun strings => .nil (not_not.mp void)
  | cons statement rest inductionHypothesis =>
      cases statement with
      | assign name number =>
          obtain ⟨first, between, assigned, lowered⟩ := Lowering.bind_eq_ok_iff.mp lowered
          obtain ⟨following, _, second, lowered⟩ := Lowering.bind_eq_ok_iff.mp lowered
          obtain ⟨rfl, rfl⟩ := Lowering.pure_eq_ok_iff.mp lowered
          obtain ⟨rfl, index, field, found, given, rfl⟩ := code_of_lowerAssignment assigned
          apply (inductionHypothesis second).weaken
          intro strings has
          exact .assign found given has
      | print operands =>
          obtain ⟨first, between, printed, lowered⟩ := Lowering.bind_eq_ok_iff.mp lowered
          obtain ⟨following, _, second, lowered⟩ := Lowering.bind_eq_ok_iff.mp lowered
          obtain ⟨rfl, rfl⟩ := Lowering.pure_eq_ok_iff.mp lowered
          obtain ⟨line, index, rfl, emits⟩ := emits_of_lowerPrint printed
          apply (emits.both (inductionHypothesis second)).weaken
          rintro strings ⟨⟨lined, found⟩, has⟩
          exact .print lined found has
      | returns value =>
          obtain ⟨first, between, returned, lowered⟩ := Lowering.bind_eq_ok_iff.mp lowered
          split at lowered
          · obtain ⟨rfl, rfl⟩ := Lowering.pure_eq_ok_iff.mp lowered
            exact emits_of_lowerReturn returned
          · simp at lowered

end MemberContext
end LateBinding
