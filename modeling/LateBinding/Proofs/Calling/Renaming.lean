import LateBinding.Proofs.Calling.Values

/-!
# Runs under other numbers

Objects and types are numbered in the order of their making, and nothing but their identity depends on
the numbers.  When a member runs on values under other numbers, and behind other lines, it gives the same
result under the other numbers and prints the same lines.
-/

namespace LateBinding

/-- Other numbers for objects and types. -/
structure Renaming where
  /-- The number of an object. -/
  objects : Nat → Nat
  /-- The identity of a type. -/
  types : Nat → Nat

/-- All numbers as they are. -/
def Renaming.same : Renaming :=
  ⟨id, id⟩

/-- A reference to an object under another number. -/
def Reference.renamed (names : Renaming) (reference : Reference) : Reference :=
  { reference with object := names.objects reference.object }

/-- A value under other numbers. -/
def Value.renamed (names : Renaming) : Value → Value
  | object reference => object (reference.renamed names)
  | value => value

/-- A type under another identity. -/
def LoadedType.renamed (names : Renaming) (type : LoadedType) : LoadedType :=
  { type with identity := names.types type.identity }

/-- An object whose type and values are under other numbers. -/
def Object.renamed (names : Renaming) (object : Object) : Object :=
  ⟨object.type.renamed names, object.fields.map (Value.renamed names)⟩

variable {names : Renaming}

namespace Value

@[simp] theorem renamed_string (text : String) : (string text).renamed names = string text := rfl

@[simp] theorem renamed_same : renamed .same = id := by
  funext value
  cases value <;> rfl

/-- The text of a reference does not tell the number of the object. -/
@[simp] theorem text_renamed (value : Value) : (value.renamed names).text = value.text := by
  cases value <;> rfl

@[simp] theorem isAccepted_renamed (type : ValueType) (loader : LoaderId) (value : Value) :
    (value.renamed names).isAccepted type loader = value.isAccepted type loader := by
  cases value <;> rfl

theorem IsPlain.renamed_eq
    {value : Value}
    (plain : value.IsPlain) :
    value.renamed names = value := by
  cases value with
  | object reference => exact plain.elim
  | _ => rfl

/-- Only the numbers of the objects that a value refers to matter. -/
theorem renamed_congr
    {other : Renaming}
    {value : Value}
    (agree : value.Refers fun reference =>
      names.objects reference.object = other.objects reference.object) :
    value.renamed names = value.renamed other := by
  cases value with
  | object reference =>
      have same : names.objects reference.object = other.objects reference.object := agree
      simp [renamed, Reference.renamed, same]
  | _ => rfl

end Value

/-! ## Dispatch -/

@[simp] theorem acceptsAll_map_renamed
    (loader : LoaderId)
    (parameters : List ValueType)
    (arguments : List Value) :
    acceptsAll loader parameters (arguments.map (Value.renamed names)) =
      acceptsAll loader parameters arguments := by
  simp [acceptsAll, List.zip_map_right, Function.comp_def]

@[simp] theorem refusedType_renamed (loader : LoaderId) (value : Value) :
    refusedType loader (value.renamed names) = refusedType loader value := by
  cases value <;> rfl

@[simp] theorem firstRefusal?_map_renamed
    (loader : LoaderId)
    (label : String)
    (index : Nat)
    (parameters : List ValueType)
    (arguments : List Value) :
    firstRefusal? loader label index parameters (arguments.map (Value.renamed names)) =
      firstRefusal? loader label index parameters arguments := by
  induction parameters generalizing index arguments with
  | nil => simp [firstRefusal?]
  | cons type rest inductionHypothesis =>
      cases arguments with
      | nil => rfl
      | cons value later => simp [firstRefusal?, inductionHypothesis]

namespace LoadedType

/-- The choice of a method does not depend on the numbers. -/
theorem dispatch_renamed (type : LoadedType) (name : String) (arguments : List Value) :
    (type.renamed names).dispatch name (arguments.map (Value.renamed names)) =
      type.dispatch name arguments := by
  have accepting : (type.renamed names).acceptingMethods name
      (arguments.map (Value.renamed names)) = type.acceptingMethods name arguments := by
    simp [acceptingMethods, methodsOfArity, renamed]
  simp only [dispatch, accepting, List.length_map, firstRefusal?_map_renamed]
  rfl

theorem requireConstructorArguments_renamed (type : LoadedType) (arguments : List Value) :
    (type.renamed names).requireConstructorArguments (arguments.map (Value.renamed names)) =
      type.requireConstructorArguments arguments := by
  simp only [requireConstructorArguments, List.length_map, firstRefusal?_map_renamed]
  rfl

theorem initialFields_renamed (type : LoadedType) :
    (type.renamed names).initialFields = type.initialFields.map (Value.renamed names) := by
  simp only [initialFields, List.map_map]
  apply List.map_congr_left
  intro field _
  have plain : (Value.initial field.type).IsPlain := Value.refers_initial field.type
  exact plain.renamed_eq.symm

end LoadedType

/-! ## The machine -/

def Frame.renamed (names : Renaming) (frame : Frame) : Frame :=
  ⟨frame.strings, frame.arguments.map (Value.renamed names)⟩

/-- A machine on values under other numbers, behind other lines. -/
def Machine.renamed (names : Renaming) (before : List String) (machine : Machine) : Machine :=
  ⟨machine.stack.map (Value.renamed names), machine.fields.map (Value.renamed names),
    before ++ machine.output⟩

def StepResult.renamed (names : Renaming) (before : List String) : StepResult → StepResult
  | next after => next (after.renamed names before)
  | done value after => done (value.renamed names) (after.renamed names before)
  | fault reason after => fault reason (after.renamed names before)

namespace Machine

variable (before : List String) (frame : Frame) (machine : Machine)

theorem pushOr_renamed (reason : String) (found : Option Value) :
    (machine.renamed names before).pushOr reason (found.map (Value.renamed names)) =
      (machine.pushOr reason found).renamed names before := by
  cases found <;> rfl

/-- Each instruction does the same under other numbers. -/
theorem step_renamed (instruction : Instruction) :
    (machine.renamed names before).step (frame.renamed names) instruction =
      (machine.step frame instruction).renamed names before := by
  cases instruction with
  | loadParameter index =>
      simp only [step, Frame.renamed, List.getElem?_map]
      exact pushOr_renamed before machine _ _
  | loadField index =>
      rw [step, step, ← pushOr_renamed, ← List.getElem?_map]
      rfl
  | storeField index =>
      obtain ⟨stack, fields, output⟩ := machine
      cases stack with
      | nil => rfl
      | cons value rest =>
          simp only [step, renamed, List.map_cons, List.length_map]
          split
          · simp [StepResult.renamed, renamed]
          · rfl
  | pushString index =>
      rw [step, step, ← pushOr_renamed]
      cases text : frame.strings.get? index with
      | none => simp [Frame.renamed, text]
      | some found => simp [Frame.renamed, text]
  | pushInt number => rfl
  | concatenate count =>
      simp only [step, renamed, List.length_map, ← List.map_take, ← List.map_drop, ← List.map_reverse,
        List.map_map, Function.comp_def, Value.text_renamed]
      split
      · rfl
      · rfl
  | callExternal name arity =>
      obtain ⟨stack, fields, output⟩ := machine
      dsimp only [step, Frame.renamed]
      split
      · cases stack with
        | nil => rfl
        | cons line rest => simp [renamed, StepResult.renamed]
      · rfl
  | returnValue =>
      obtain ⟨stack, fields, output⟩ := machine
      cases stack with
      | nil => rfl
      | cons value rest => rfl
  | returnVoid => rfl

/-- Code gives the same result under other numbers, and prints the same lines behind others. -/
theorem execute_renamed (code : Code) :
    execute (frame.renamed names) code (machine.renamed names before) =
      ((execute frame code machine).1.map (Value.renamed names),
        (execute frame code machine).2.renamed names before) := by
  induction code generalizing machine with
  | nil => rfl
  | cons instruction rest inductionHypothesis =>
      simp only [execute, step_renamed]
      cases machine.step frame instruction with
      | next after => exact inductionHypothesis after
      | done value after => rfl
      | fault reason after => rfl

end Machine

/-! ## Runs of members -/

/-- A run mirrors another one when it gives the same under other numbers and prints the same lines. -/
structure RunMirrors
    (names : Renaming)
    (before beforeOther : List String)
    (run other : Except String Value × Machine) : Prop where
  /-- The results are the same. -/
  result : other.1 = run.1.map (Value.renamed names)
  /-- The fields have the same values. -/
  fields : other.2.fields = run.2.fields.map (Value.renamed names)
  /-- The lines behind those that were there before are the same. -/
  printed : ∃ lines, run.2.output = before ++ lines ∧ other.2.output = beforeOther ++ lines

/-- A run of code on the same values under other numbers, behind other lines, mirrors the run. -/
theorem Machine.execute_mirrors
    (names : Renaming)
    (frame : Frame)
    (code : Code)
    (fields : List Value)
    (before beforeOther : List String) :
    RunMirrors names before beforeOther
      (execute frame code ⟨[], fields, before⟩)
      (execute (frame.renamed names) code ⟨[], fields.map (Value.renamed names), beforeOther⟩) := by
  -- Both runs are the run behind no lines, under its own numbers and under the others.
  let bare : Machine := ⟨[], fields, []⟩
  have first := @execute_renamed .same before frame bare code
  have second := @execute_renamed names beforeOther frame bare code
  have sameFrame : frame.renamed .same = frame := by simp [Frame.renamed]
  have sameStart : bare.renamed .same before = ⟨[], fields, before⟩ := by simp [bare, renamed]
  have otherStart : bare.renamed names beforeOther =
      ⟨[], fields.map (Value.renamed names), beforeOther⟩ := by
    simp [bare, renamed]
  rw [sameFrame, sameStart] at first
  rw [otherStart] at second
  rw [first, second]
  refine ⟨?_, by simp [renamed], ⟨(execute frame code bare).2.output, rfl, rfl⟩⟩
  cases (execute frame code bare).1 with
  | error reason => rfl
  | ok value => simp [Except.map]

namespace World

variable (names : Renaming) (full rest : World)

/-- The constructor of a type runs alike in two worlds. -/
theorem constructorRun_mirrors (type : LoadedType) (arguments : List Value) :
    RunMirrors names full.output rest.output
      (full.constructorRun type arguments)
      (rest.constructorRun (type.renamed names) (arguments.map (Value.renamed names))) := by
  rw [constructorRun, constructorRun, LoadedType.initialFields_renamed]
  exact Machine.execute_mirrors names (type.frame arguments) _ _ _ _

/-- A method of an object runs alike in two worlds. -/
theorem methodRun_mirrors (object : Object) (method : Member) (arguments : List Value) :
    RunMirrors names full.output rest.output
      (full.methodRun object method arguments)
      (rest.methodRun (object.renamed names) method (arguments.map (Value.renamed names))) :=
  Machine.execute_mirrors names (object.type.frame arguments) _ _ _ _

end World
end LateBinding
