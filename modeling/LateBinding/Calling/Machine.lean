import LateBinding.Loading.LoadedType

/-!
# The machine

The execution of a member's code on a stack of values.  A member changes the fields of its object
and prints lines as it goes, also when one of its instructions cannot be carried out.
-/

namespace LateBinding

/-- What does not change while a member is executed. -/
structure Frame where
  /-- The texts that the code refers to. -/
  strings : StringPool
  /-- The arguments. -/
  arguments : List Value

/-- What changes while a member is executed. -/
structure Machine where
  /-- The stack, its top first. -/
  stack : List Value
  /-- The fields of the object. -/
  fields : List Value
  /-- The lines printed so far. -/
  output : List String
  deriving DecidableEq, Repr, Inhabited

/-- What an instruction comes to. -/
inductive StepResult where
  /-- The next instruction follows. -/
  | next (machine : Machine)
  /-- The member returns a value. -/
  | done (value : Value) (machine : Machine)
  /-- The instruction cannot be carried out. -/
  | fault (reason : String) (machine : Machine)

namespace Machine

/-- Pushes a value if there is one. -/
def pushOr (machine : Machine) (reason : String) : Option Value → StepResult
  | some value => .next { machine with stack := value :: machine.stack }
  | none => .fault reason machine

/-- Carries out an instruction. -/
def step (frame : Frame) (machine : Machine) : Instruction → StepResult
  | .loadParameter index =>
      machine.pushOr s!"missing argument {index}" frame.arguments[index.toNat]?
  | .loadField index => machine.pushOr s!"missing field {index}" machine.fields[index.toNat]?
  | .storeField index =>
      match machine.stack with
      | [] => .fault "stack underflow" machine
      | value :: rest =>
          if index.toNat < machine.fields.length then
            .next { machine with stack := rest, fields := machine.fields.set index.toNat value }
          else .fault s!"missing field {index}" { machine with stack := rest }
  | .pushString index =>
      machine.pushOr s!"missing string {index}"
        ((frame.strings.get? index).map Value.string)
  | .pushInt number => .next { machine with stack := .int number :: machine.stack }
  | .concatenate count =>
      if machine.stack.length < count.toNat then .fault "stack underflow" machine
      else
        let joined := (machine.stack.take count.toNat).reverse.map Value.text
        .next { machine with
          stack := .string (String.join joined) :: machine.stack.drop count.toNat }
  | .callExternal name arity =>
      let function := (frame.strings.get? name).getD ""
      if function = printFunction && arity = 1 then
        match machine.stack with
        | [] => .fault "stack underflow" machine
        | line :: rest =>
            .next { machine with stack := rest, output := machine.output ++ [line.text] }
      else .fault s!"unbound external {function}/{arity}" machine
  | .returnValue =>
      match machine.stack with
      | [] => .fault "stack underflow" machine
      | value :: rest => .done value { machine with stack := rest }
  | .returnVoid => .done .null machine

/-- Carries out code until it returns, and gives the result and the machine after it. -/
def execute (frame : Frame) : Code → Machine → Except String Value × Machine
  | [], machine => (.error "fell off the end of the code", machine)
  | instruction :: rest, machine =>
      match machine.step frame instruction with
      | .next after => execute frame rest after
      | .done value after => (.ok value, after)
      | .fault reason after => (.error reason, after)

end Machine
end LateBinding
