import LateBinding.Proofs.Calling.Machine
import LateBinding.Proofs.Lowering.Code

/-!
# The execution of the code of statements

Code by the rules refers only to what is there, ends with a return and calls nothing but the printing
function.  Executed on arguments and values that agree with a store, it returns the value, leaves the
values and prints the lines of the effect of its statements.
-/

namespace LateBinding

/-- The indices of a member's fields and parameters are not cut off in its instructions. -/
structure MemberContext.Fits (context : MemberContext) : Prop where
  /-- No two fields share a name. -/
  distinct : (context.fields.map Field.name).Nodup
  /-- Two bytes number the fields. -/
  fewFields : context.fields.length ≤ 65535
  /-- A byte numbers the parameters. -/
  fewParameters : context.parameters.length ≤ 255

variable {context : MemberContext} {strings : StringPool}

namespace MemberContext.Fits

theorem fieldIndex
    (fits : context.Fits)
    {name : String}
    {index : Nat}
    {field : Field}
    (found : findField? context.fields name = some (index, field)) :
    (UInt16.ofNat index).toNat = index ∧ index < context.fields.length := by
  have inside := (List.getElem?_eq_some_iff.mp (findField?_eq_some_iff.mp found).2).1
  have few := fits.fewFields
  exact ⟨Bytes.toNat_ofNat16 (by omega), inside⟩

theorem parameterIndex
    (fits : context.Fits)
    {number : Nat}
    {type : ValueType}
    (given : parameterType? context.parameters number = some type) :
    number ≠ 0 ∧ (UInt8.ofNat (number - 1)).toNat = number - 1 ∧
      number - 1 < context.parameters.length := by
  unfold parameterType? at given
  split at given
  · nomatch given
  · next counted =>
    have inside := (List.getElem?_eq_some_iff.mp given).1
    have few := fits.fewParameters
    exact ⟨counted, Bytes.toNat_ofNat8 (by omega), inside⟩

end MemberContext.Fits

/-! ## Soundness -/

/-- An instruction refers only to what is there and calls nothing but the printing function. -/
structure Instruction.IsSafe
    (context : MemberContext)
    (strings : StringPool)
    (instruction : Instruction) : Prop where
  refers : instruction.RefersInside context.fields.length context.parameters.length strings
  calls : instruction.CallsPrinter strings

/-- Code that is sound and bound. -/
structure Code.IsSafe
    (context : MemberContext)
    (strings : StringPool)
    (code : Code) : Prop where
  sound : code.IsSound context.fields.length context.parameters.length strings
  bound : code.IsBound strings

/-- Safe instructions in front of safe code. -/
theorem Code.IsSafe.append
    {front later : Code}
    (safe : later.IsSafe context strings)
    (first : ∀ instruction ∈ front, instruction.IsSafe context strings) :
    (front ++ later).IsSafe context strings where
  sound := by
    constructor
    · have ends := safe.sound.ends
      rw [List.getLast?_append]
      cases last : later.getLast? with
      | none => simp [last] at ends
      | some instruction => simpa [last] using ends
    · intro instruction present
      rcases List.mem_append.mp present with inFront | inLater
      · exact (first instruction inFront).refers
      · exact safe.sound.refers instruction inLater
  bound := by
    intro instruction present
    rcases List.mem_append.mp present with inFront | inLater
    · exact (first instruction inFront).calls
    · exact safe.bound instruction inLater

/-- A safe return alone is safe code. -/
theorem Code.isSafe_of_isReturn
    {instruction : Instruction}
    (returns : instruction.isReturn = true)
    (safe : instruction.IsSafe context strings) :
    Code.IsSafe context strings [instruction] where
  sound := by
    refine ⟨returns, ?_⟩
    intro other present
    obtain rfl := List.mem_singleton.mp present
    exact safe.refers
  bound := by
    intro other present
    obtain rfl := List.mem_singleton.mp present
    exact safe.calls

theorem OperandCode.isSafe
    {operand : Operand}
    {type : ValueType}
    {instruction : Instruction}
    (has : OperandCode context strings operand type instruction)
    (fits : context.Fits) :
    instruction.IsSafe context strings := by
  cases has with
  | field found =>
      obtain ⟨exact_, inside⟩ := fits.fieldIndex found
      exact ⟨by rwa [Instruction.RefersInside, exact_], trivial⟩
  | parameter given =>
      obtain ⟨_, exact_, inside⟩ := fits.parameterIndex given
      exact ⟨by rwa [Instruction.RefersInside, exact_], trivial⟩
  | string found => exact ⟨by rw [Instruction.RefersInside, found]; rfl, trivial⟩
  | int => exact ⟨trivial, trivial⟩

theorem OperandsCode.isSafe
    {operands : List Operand}
    {code : Code}
    (has : OperandsCode context strings operands code)
    (fits : context.Fits) :
    ∀ instruction ∈ code, instruction.IsSafe context strings := by
  induction has with
  | nil => simp
  | cons head tail inductionHypothesis =>
      obtain ⟨type, pushes⟩ := head
      intro instruction present
      rcases List.mem_cons.mp present with rfl | later
      · exact pushes.isSafe fits
      · exact inductionHypothesis instruction later

theorem LineCode.isSafe
    {operands : List Operand}
    {code : Code}
    (has : LineCode context strings operands code)
    (fits : context.Fits) :
    ∀ instruction ∈ code, instruction.IsSafe context strings := by
  intro instruction present
  cases has with
  | empty found =>
      obtain rfl := List.mem_singleton.mp present
      exact ⟨by rw [Instruction.RefersInside, found]; rfl, trivial⟩
  | single pushes => exact pushes.isSafe fits instruction present
  | several few pushes =>
      rcases List.mem_append.mp present with inFront | last
      · exact pushes.isSafe fits instruction inFront
      · obtain rfl := List.mem_singleton.mp last
        exact ⟨trivial, trivial⟩

theorem BodyCode.isSafe
    {statements : List Statement}
    {code : Code}
    (has : BodyCode context strings statements code)
    (fits : context.Fits) :
    code.IsSafe context strings := by
  induction has with
  | nil void => exact Code.isSafe_of_isReturn rfl ⟨trivial, trivial⟩
  | assign found given _ inductionHypothesis =>
      obtain ⟨exactField, insideFields⟩ := fits.fieldIndex found
      obtain ⟨_, exactParameter, insideParameters⟩ := fits.parameterIndex given
      apply inductionHypothesis.append
      intro instruction present
      rcases List.mem_cons.mp present with rfl | second
      · exact ⟨by rwa [Instruction.RefersInside, exactParameter], trivial⟩
      · obtain rfl := List.mem_singleton.mp second
        exact ⟨by rwa [Instruction.RefersInside, exactField], trivial⟩
  | print line found _ inductionHypothesis =>
      apply inductionHypothesis.append
      intro instruction present
      rcases List.mem_append.mp present with inLine | call
      · exact line.isSafe fits instruction inLine
      · obtain rfl := List.mem_singleton.mp call
        exact ⟨by rw [Instruction.RefersInside, found]; rfl, by
          rw [Instruction.CallsPrinter, found]
          exact ⟨rfl, rfl⟩⟩
  | returnsNothing void => exact Code.isSafe_of_isReturn rfl ⟨trivial, trivial⟩
  | returnsValue valued pushes =>
      have returns : Code.IsSafe context strings [.returnValue] :=
        Code.isSafe_of_isReturn rfl ⟨trivial, trivial⟩
      change Code.IsSafe context strings ([_] ++ [.returnValue])
      apply returns.append
      intro instruction present
      obtain rfl := List.mem_singleton.mp present
      exact pushes.isSafe fits

/-! ## Simulation -/

/-- Executing code on a machine leads to another machine and to what follows the code. -/
def Machine.Runs (frame : Frame) (code : Code) (machine after : Machine) : Prop :=
  ∀ rest, execute frame (code ++ rest) machine = execute frame rest after

namespace Machine

variable {frame : Frame}

theorem runs_nil (machine : Machine) : Runs frame [] machine machine := fun _ => rfl

theorem runs_of_step
    {instruction : Instruction}
    {machine after : Machine}
    (stepped : machine.step frame instruction = .next after) :
    Runs frame [instruction] machine after := by
  intro rest
  rw [List.singleton_append, execute, stepped]

theorem Runs.append
    {front later : Code}
    {machine between after : Machine}
    (first : Runs frame front machine between)
    (second : Runs frame later between after) :
    Runs frame (front ++ later) machine after := by
  intro rest
  rw [List.append_assoc, first, second]

end Machine

/-- The machine with a value on top of its stack. -/
def Machine.push (machine : Machine) (value : Value) : Machine :=
  { machine with stack := value :: machine.stack }

/-- The machine with values pushed one after the other. -/
def Machine.pushAll (machine : Machine) (values : List Value) : Machine :=
  { machine with stack := values.reverse ++ machine.stack }

/-- An instance of a context: arguments for its parameters, and values and a store that agree. -/
structure Machine.Represents
    (context : MemberContext)
    (arguments : List Value)
    (store : FieldStore)
    (machine : Machine) : Prop where
  asMany : arguments.length = context.parameters.length
  agrees : store.Agrees context.fields machine.fields

variable {arguments : List Value} {store : FieldStore} {machine : Machine}

theorem Machine.Represents.argument
    (represents : machine.Represents context arguments store)
    (fits : context.Fits)
    {number : Nat}
    {type : ValueType}
    (given : parameterType? context.parameters number = some type) :
    ∃ value, argument? arguments number = some value ∧
      ∀ strings, machine.step ⟨strings, arguments⟩ (.loadParameter (UInt8.ofNat (number - 1))) =
        .next (machine.push value) := by
  obtain ⟨counted, exact_, inside⟩ := fits.parameterIndex given
  rw [← represents.asMany] at inside
  refine ⟨arguments[number - 1], ?_, ?_⟩
  · rw [argument?, if_neg counted, List.getElem?_eq_getElem inside]
  · intro strings
    rw [Machine.step, exact_, List.getElem?_eq_getElem inside]
    rfl

theorem OperandCode.pushes
    {operand : Operand}
    {type : ValueType}
    {instruction : Instruction}
    (has : OperandCode context strings operand type instruction)
    (fits : context.Fits)
    (represents : machine.Represents context arguments store) :
    ∃ value, operand.value? arguments store = some value ∧
      machine.step ⟨strings, arguments⟩ instruction = .next (machine.push value) := by
  cases has with
  | field found =>
      obtain ⟨exact_, _⟩ := fits.fieldIndex found
      obtain ⟨value, there, known⟩ := represents.agrees.value found
      refine ⟨value, known, ?_⟩
      rw [Machine.step, exact_, there]
      rfl
  | parameter given =>
      obtain ⟨value, known, loaded⟩ := represents.argument fits given
      exact ⟨value, known, loaded strings⟩
  | string found =>
      refine ⟨_, rfl, ?_⟩
      rw [Machine.step]
      simp only [found]
      rfl
  | int => exact ⟨_, rfl, rfl⟩

theorem OperandsCode.pushes
    {operands : List Operand}
    {code : Code}
    (has : OperandsCode context strings operands code)
    (fits : context.Fits)
    (represents : machine.Represents context arguments store) :
    ∃ values, operands.mapM (Operand.value? arguments store) = some values ∧
      values.length = operands.length ∧
      Machine.Runs ⟨strings, arguments⟩ code machine (machine.pushAll values) := by
  induction has generalizing machine with
  | nil => exact ⟨[], rfl, rfl, Machine.runs_nil machine⟩
  | cons head tail inductionHypothesis =>
      obtain ⟨type, pushes⟩ := head
      obtain ⟨value, known, stepped⟩ := pushes.pushes fits represents
      have still : (machine.push value).Represents context arguments store :=
        ⟨represents.asMany, represents.agrees⟩
      obtain ⟨values, knownLater, lengths, runs⟩ := inductionHypothesis still
      refine ⟨value :: values, ?_, ?_, ?_⟩
      · simp [List.mapM_cons, known, knownLater]
      · rw [List.length_cons, List.length_cons, lengths]
      · have both := (Machine.runs_of_step stepped).append runs
        simpa [Machine.pushAll, Machine.push] using both

/-- The code of a line leaves a value on the stack that prints as the line. -/
theorem LineCode.pushes
    {operands : List Operand}
    {code : Code}
    (has : LineCode context strings operands code)
    (fits : context.Fits)
    (represents : machine.Represents context arguments store) :
    ∃ values line, operands.mapM (Operand.value? arguments store) = some values ∧
      line.text = String.join (values.map Value.text) ∧
      Machine.Runs ⟨strings, arguments⟩ code machine (machine.push line) := by
  cases has with
  | empty found =>
      refine ⟨[], .string "", rfl, rfl, Machine.runs_of_step ?_⟩
      rw [Machine.step]
      simp only [found]
      rfl
  | single pushes =>
      obtain ⟨values, known, lengths, runs⟩ := pushes.pushes fits represents
      obtain ⟨value, rfl⟩ := List.length_eq_one_iff.mp lengths
      exact ⟨[value], value, known, by simp [String.join], runs⟩
  | several few pushes =>
      obtain ⟨values, known, lengths, runs⟩ := pushes.pushes fits represents
      refine ⟨values, .string (String.join (values.map Value.text)), known, rfl,
        runs.append (Machine.runs_of_step ?_)⟩
      have count : (UInt8.ofNat operands.length).toNat = values.reverse.length := by
        rw [List.length_reverse, lengths]
        exact Bytes.toNat_ofNat8 (by omega)
      have enough : ¬ (machine.pushAll values).stack.length < values.reverse.length := by
        simp [Machine.pushAll]
      rw [Machine.step, count, if_neg enough]
      simp only [Machine.pushAll, List.take_left, List.drop_left, List.reverse_reverse]
      rfl

/-- The code of a body does what its statements say. -/
theorem BodyCode.execute
    {statements : List Statement}
    {code : Code}
    (has : BodyCode context strings statements code)
    (fits : context.Fits)
    (represents : machine.Represents context arguments store) :
    ∃ effect after, effect? arguments store statements = some effect ∧
      Machine.execute ⟨strings, arguments⟩ code machine = (.ok effect.result, after) ∧
      after.output = machine.output ++ effect.lines ∧
      effect.store.Agrees context.fields after.fields := by
  induction has generalizing machine store with
  | nil void => exact ⟨_, _, rfl, rfl, (List.append_nil _).symm, represents.agrees⟩
  | @assign name number index field rest later found given _ inductionHypothesis =>
      obtain ⟨old, _, declared⟩ := represents.agrees.value found
      obtain ⟨exact_, inside⟩ := fits.fieldIndex found
      obtain ⟨value, known, loaded⟩ := represents.argument fits given
      -- The two instructions take the argument over the stack, which is the old one afterwards.
      have stored : (machine.push value).step ⟨strings, arguments⟩
          (.storeField (UInt16.ofNat index)) =
            .next { machine with fields := machine.fields.set index value } := by
        rw [← represents.agrees.length] at inside
        rw [Machine.step, exact_]
        exact if_pos inside
      have assigned : Machine.Represents context arguments (store.assign name value)
          { machine with fields := machine.fields.set index value } :=
        ⟨represents.asMany, represents.agrees.assign fits.distinct found value⟩
      obtain ⟨effect, after, meaning, executed, printed, agrees⟩ := inductionHypothesis assigned
      refine ⟨effect, after, ?_, ?_, printed, agrees⟩
      · simp only [effect?, declared, known, Option.bind_eq_bind, Option.bind_some, meaning]
      · have runs := (Machine.runs_of_step (loaded strings)).append (Machine.runs_of_step stored)
        exact (runs later).trans executed
  | @print operands line later index rest lined found _ inductionHypothesis =>
      obtain ⟨values, value, known, text, runs⟩ := lined.pushes fits represents
      have called : (machine.push value).step ⟨strings, arguments⟩ (.callExternal index 1) =
          .next { machine with output := machine.output ++ [value.text] } := by
        simp only [Machine.step, found]
        rfl
      have still : Machine.Represents context arguments store
          { machine with output := machine.output ++ [value.text] } :=
        ⟨represents.asMany, represents.agrees⟩
      obtain ⟨effect, after, meaning, executed, printed, agrees⟩ := inductionHypothesis still
      refine ⟨{ effect with lines := value.text :: effect.lines }, after, ?_, ?_, ?_, agrees⟩
      · simp [effect?, known, meaning, text]
      · rw [runs.append (Machine.runs_of_step called) later]
        exact executed
      · rw [printed, List.append_assoc]
        rfl
  | returnsNothing void => exact ⟨_, _, rfl, rfl, (List.append_nil _).symm, represents.agrees⟩
  | returnsValue valued pushes =>
      obtain ⟨value, known, stepped⟩ := pushes.pushes fits represents
      refine ⟨⟨value, store, []⟩, machine, ?_, ?_, (List.append_nil _).symm, represents.agrees⟩
      · simp [effect?, known]
      · rw [Machine.execute, stepped]
        rfl

end LateBinding
