import LateBinding.Descriptor.Constructor
import LateBinding.Module.Image

/-!
# Lowering

The module of a frozen type.  Each statement becomes a few instructions: an assignment loads a
parameter and stores it in a field, a printed line is put together on the stack and passed to the
external printing function, and a return loads its value.  Texts are added to the pool in the order
in which the code refers to them, so equal types have equal modules.
-/

namespace LateBinding

/-- The external function that prints a line. -/
def printFunction : String :=
  "println"

/-- A step of lowering, which adds texts to the pool or finds the type wrong. -/
abbrev Lowering :=
  StateT StringPool (Except BuildError)

/-- The index of a text, which is added to the pool if need be. -/
def Lowering.indexOf (text : String) : Lowering UInt32 := fun pool =>
  .ok (pool.add text)

/-- What is known about the member that is lowered. -/
structure MemberContext where
  /-- The fields of the type. -/
  fields : List Field
  /-- The types of the member's parameters. -/
  parameters : List ValueType
  /-- The type of the member's result. -/
  result : ValueType
  /-- The member in messages. -/
  label : String

namespace MemberContext

/-- A member that does not fit its type. -/
def mismatch (context : MemberContext) (reason : String) : Lowering Result :=
  throw (.signatureMismatch context.label reason)

/-- A member with a body that has no code. -/
def unsupported (context : MemberContext) (piece : String) : Lowering Result :=
  throw (.unsupportedBody context.label piece)

/-- The instruction that pushes an operand, and the operand's type. -/
def lowerOperand (context : MemberContext) : Operand → Lowering (Instruction × ValueType)
  | .field name =>
      match findField? context.fields name with
      | none => context.mismatch s!"reads unknown field '{name}'"
      | some (index, field) => return (.loadField (UInt16.ofNat index), field.type)
  | .parameter number =>
      match parameterType? context.parameters number with
      | none => context.mismatch s!"reads missing parameter ${number}"
      | some type => return (.loadParameter (UInt8.ofNat (number - 1)), type)
  | .string text => do
      return (.pushString (← Lowering.indexOf text), .string)
  | .int number => return (.pushInt number, .int)

/-- The instructions that push operands one after the other. -/
def lowerOperands (context : MemberContext) : List Operand → Lowering Code
  | [] => return []
  | operand :: rest => do
      let (instruction, _) ← context.lowerOperand operand
      let later ← context.lowerOperands rest
      return instruction :: later

/-- The instructions of an assignment. -/
def lowerAssignment
    (context : MemberContext)
    (name : String)
    (number : Nat) :
    Lowering Code :=
  match findField? context.fields name with
  | none => context.mismatch s!"assigns unknown field '{name}'"
  | some (index, field) =>
      match parameterType? context.parameters number with
      | none => context.mismatch s!"reads missing parameter ${number}"
      | some source =>
          if source ≠ field.type then
            context.mismatch
              s!"field '{name}' is {field.type.text} but ${number} is {source.text}"
          else
            return [.loadParameter (UInt8.ofNat (number - 1)),
              .storeField (UInt16.ofNat index)]

/-- The instructions that leave the printed line on the stack. -/
def lowerLine (context : MemberContext) (operands : List Operand) : Lowering Code :=
  if operands.isEmpty then do
    return [.pushString (← Lowering.indexOf "")]
  else if 255 < operands.length then
    context.unsupported s!"println with {operands.length} terms"
  else do
    let code ← context.lowerOperands operands
    if 1 < operands.length then
      return code ++ [.concatenate (UInt8.ofNat operands.length)]
    else return code

/-- The instructions of a printing statement. -/
def lowerPrint (context : MemberContext) (operands : List Operand) : Lowering Code := do
  let line ← context.lowerLine operands
  let name ← Lowering.indexOf printFunction
  return line ++ [.callExternal name 1]

/-- The instructions of a return. -/
def lowerReturn (context : MemberContext) : Option Operand → Lowering Code
  | none =>
      if context.result ≠ .void then
        context.mismatch s!"must return {context.result.text}"
      else return [.returnVoid]
  | some operand => do
      if context.result = .void then
        context.mismatch "void member cannot return a value"
      else
        let (instruction, type) ← context.lowerOperand operand
        if type ≠ context.result then
          context.mismatch
            s!"returns {type.text} but is declared {context.result.text}"
        else return [instruction, .returnValue]

/--
The instructions of a body.  Nothing follows a return, and a body that does not end with one
returns nothing.
-/
def lowerBody (context : MemberContext) : List Statement → Lowering Code
  | [] =>
      if context.result ≠ .void then
        context.mismatch s!"missing return of {context.result.text}"
      else return [.returnVoid]
  | .assign name number :: rest => do
      let code ← context.lowerAssignment name number
      let later ← context.lowerBody rest
      return code ++ later
  | .print operands :: rest => do
      let code ← context.lowerPrint operands
      let later ← context.lowerBody rest
      return code ++ later
  | .returns value :: rest => do
      let code ← context.lowerReturn value
      match rest with
      | [] => return code
      | statement :: _ =>
          context.unsupported s!"unreachable statement after return: {statement.outline}"

end MemberContext

/-- The statements of the bodies of a method, one after the other. -/
def flattenSegments (label : String) : List Body → Except BuildError (List Statement)
  | [] => .ok []
  | body :: rest => do
      let statements ← body.statementsOf label
      let later ← flattenSegments label rest
      return statements ++ later

namespace TypeDescription

/-- The context of a member of a type. -/
def memberContext
    (description : TypeDescription)
    (name : String)
    (parameters : List ValueType)
    (result : ValueType) :
    MemberContext where
  fields := description.fields
  parameters := parameters
  result := result
  label := memberLabel description.name name parameters

/-- The constructor of a type; without a declared one it takes nothing and does nothing. -/
def lowerConstructor (description : TypeDescription) : Lowering Member :=
  match description.constructor with
  | none => return ⟨constructorName, .void, [], [.returnVoid]⟩
  | some given => do
      let context := description.memberContext constructorName given.parameters .void
      let code ← context.lowerBody given.body
      return ⟨constructorName, .void, given.parameters, code⟩

/-- A method of a type. -/
def lowerMethod (description : TypeDescription) (method : MethodDescription) : Lowering Member := do
  let context := description.memberContext method.name method.parameters method.result
  let statements ← flattenSegments context.label method.segments
  let code ← context.lowerBody statements
  return ⟨method.name, method.result, method.parameters, code⟩

/-- The methods of a type. -/
def lowerMethods (description : TypeDescription) : List MethodDescription → Lowering (List Member)
  | [] => return []
  | method :: rest => do
      let member ← description.lowerMethod method
      let members ← description.lowerMethods rest
      return member :: members

/-- The members of a type. -/
def lowerMembers (description : TypeDescription) : Lowering (Member × List Member) := do
  let constructor ← description.lowerConstructor
  let methods ← description.lowerMethods description.methods
  return (constructor, methods)

end TypeDescription

/-- The image of a frozen type, which has at most 65535 fields. -/
def FrozenType.lower (type : FrozenType) : Except BuildError ModuleImage := do
  let description := type.description
  if 65535 < description.fields.length then
    throw (.signatureMismatch description.name s!"too many fields ({description.fields.length})")
  let ((constructor, methods), strings) ← description.lowerMembers.run StringPool.empty
  return {
    name := description.name
    fields := description.fields
    explicitConstructor := description.constructor.isSome
    constructor
    methods
    strings }

/-- The bytes of a module with the name under which it is stored. -/
structure PackedModule where
  /-- The qualified name of the type. -/
  name : String
  /-- The bytes. -/
  bytes : Bytes
  deriving DecidableEq, Repr, Inhabited

/-- The module of a frozen type. -/
def FrozenType.generate (type : FrozenType) : Except BuildError PackedModule :=
  type.lower.map fun image => ⟨type.description.name, image.encode⟩

end LateBinding
