import LateBinding.Descriptor.Basic

/-!
# Constructors

The body of a constructor stores every parameter in a field of its own.  The fields come in the
order of their declaration, may be followed by no value to return, and what is printed has to be
there.
-/

namespace LateBinding

/-- For each parameter the index of the field that it initializes, if it does so. -/
abbrev ParameterTargets :=
  List (Option Nat)

/-- What a check finds wrong, or its result. -/
abbrev Checked :=
  Except String

/-- Asks that an operand of a constructor names something that is there. -/
def checkOperand (fields : List Field) (parameters : List ValueType) : Operand → Checked Unit
  | .field name =>
      if (fieldIndex? fields name).isSome then .ok ()
      else .error s!"reads unknown field '{name}'"
  | .parameter number =>
      if (parameterType? parameters number).isSome then .ok ()
      else .error s!"reads ${number} but only {parameters.length} parameter(s) exist"
  | .string _ => .ok ()
  | .int _ => .ok ()

/-- Asks that operands of a constructor name only what is there. -/
def checkOperands
    (fields : List Field)
    (parameters : List ValueType) :
    List Operand → Checked Unit
  | [] => .ok ()
  | operand :: rest => do
      checkOperand fields parameters operand
      checkOperands fields parameters rest

/-- The targets of parameters after an assignment. -/
def checkAssignment
    (fields : List Field)
    (parameters : List ValueType)
    (targets : ParameterTargets)
    (name : String)
    (number : Nat) :
    Checked ParameterTargets :=
  match findField? fields name with
  | none => .error s!"assigns unknown field '{name}'"
  | some (index, field) =>
      match parameterType? parameters number with
      | none =>
          .error <|
            s!"field '{name}' is assigned from ${number} " ++
              s!"but only {parameters.length} parameter(s) exist"
      | some source =>
          if source ≠ field.type then
            .error s!"field '{name}' is {field.type.text} but ${number} is {source.text}"
          else if targets.contains (some index) then
            .error s!"field '{name}' is assigned more than once"
          else if (targets[number - 1]?.join).isSome then
            .error s!"${number} initializes more than one field"
          else .ok (targets.set (number - 1) (some index))

/-- The targets of parameters after the statements of a constructor. -/
def checkStatements
    (fields : List Field)
    (parameters : List ValueType)
    (targets : ParameterTargets) :
    List Statement → Checked ParameterTargets
  | [] => .ok targets
  | .assign name number :: rest => do
      let targets ← checkAssignment fields parameters targets name number
      checkStatements fields parameters targets rest
  | .print operands :: rest => do
      checkOperands fields parameters operands
      checkStatements fields parameters targets rest
  | .returns (some _) :: _ => .error "constructor cannot return a value"
  | .returns none :: rest => checkStatements fields parameters targets rest

/--
Asks that each of the parameters from a number on has a target, and that the targets come in the
order of their declaration.
-/
def checkTargets
    (fields : List Field)
    (previous : Option Nat)
    (number : Nat) :
    ParameterTargets → Checked Unit
  | [] => .ok ()
  | none :: _ => .error s!"${number} does not initialize any field"
  | some index :: rest =>
      if previous.any (index < ·) then
        let name := (fields[index]?.map Field.name).getD ""
        .error <|
          s!"${number} initializes '{name}', " ++
            s!"which is declared before the field of ${number - 1}"
      else checkTargets fields (some index) (number + 1) rest

/-- Asks that the body of a constructor fits its fields and parameters. -/
def checkConstructorBody
    (fields : List Field)
    (parameters : List ValueType)
    (body : List Statement) :
    Checked Unit := do
  let targets ←
    checkStatements fields parameters (List.replicate parameters.length none) body
  checkTargets fields none 1 targets

/-- Sets the constructor, which can be done once. -/
def TypeDescription.setConstructor
    (description : TypeDescription)
    (parameters : List ValueType)
    (body : Body) :
    Except BuildError TypeDescription := do
  if description.constructor.isSome then
    throw (.constructorAlreadySet description.name)
  description.requireStage .constructor "the constructor"
  let member := memberLabel description.name "<init>" parameters
  requireParameters member parameters
  let statements ← body.statementsOf member
  (checkConstructorBody description.fields parameters statements).mapError fun reason =>
    BuildError.signatureMismatch member reason
  return { description with
    constructor := some ⟨parameters, statements⟩
    stage := .constructor }

end LateBinding
