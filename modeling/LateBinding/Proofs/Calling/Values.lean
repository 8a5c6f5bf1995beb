import LateBinding.Proofs.Calling.Call

/-!
# Values that code can give

Code makes no references to objects.  All that it stores or returns is a value that refers to no object,
or an argument, or a value that a field had before, whatever its instructions are.
-/

namespace LateBinding

/-- A value that refers to no object, or to one with a property. -/
def Value.Refers (property : Reference → Prop) : Value → Prop
  | object reference => property reference
  | _ => True

/-- A value that refers to no object. -/
def Value.IsPlain (value : Value) : Prop :=
  value.Refers fun _ => False

variable {property : Reference → Prop}

theorem Value.Refers.mono
    {other : Reference → Prop}
    (implies : ∀ reference, property reference → other reference)
    {value : Value}
    (refers : value.Refers property) :
    value.Refers other := by
  cases value with
  | object reference => exact implies reference refers
  | _ => trivial

theorem Value.IsPlain.refers
    {value : Value}
    (plain : value.IsPlain) :
    value.Refers property :=
  plain.mono fun _ impossible => impossible.elim

theorem Value.refers_initial (type : ValueType) : (Value.initial type).Refers property := by
  cases type <;> trivial

/-- The references on the stack and in the fields satisfy a property. -/
structure Machine.Refers (property : Reference → Prop) (machine : Machine) : Prop where
  stack : ∀ value ∈ machine.stack, value.Refers property
  fields : ∀ value ∈ machine.fields, value.Refers property

/-- The references that an instruction leaves or returns satisfy a property. -/
def StepResult.Refers (property : Reference → Prop) : StepResult → Prop
  | next after => after.Refers property
  | done value after => value.Refers property ∧ after.Refers property
  | fault _ after => after.Refers property

namespace Machine

variable {frame : Frame} {machine : Machine}

theorem Refers.push
    (refers : machine.Refers property)
    {value : Value}
    (pushed : value.Refers property) :
    Machine.Refers property { machine with stack := value :: machine.stack } :=
  ⟨List.forall_mem_cons.mpr ⟨pushed, refers.stack⟩, refers.fields⟩

theorem Refers.pushOr
    (refers : machine.Refers property)
    {reason : String}
    {found : Option Value}
    (pushed : ∀ value, found = some value → value.Refers property) :
    (machine.pushOr reason found).Refers property := by
  cases found with
  | none => exact refers
  | some value => exact refers.push (pushed value rfl)

/-- What is below the top of the stack, with the same fields. -/
theorem Refers.pop
    (refers : machine.Refers property)
    {value : Value}
    {rest : List Value}
    (stacked : machine.stack = value :: rest)
    (output : List String) :
    value.Refers property ∧ Machine.Refers property ⟨rest, machine.fields, output⟩ := by
  obtain ⟨top, below⟩ := List.forall_mem_cons.mp (stacked ▸ refers.stack)
  exact ⟨top, below, refers.fields⟩

/-- No instruction makes a reference. -/
theorem step_refers
    (given : ∀ value ∈ frame.arguments, value.Refers property)
    (refers : machine.Refers property)
    (instruction : Instruction) :
    (machine.step frame instruction).Refers property := by
  cases instruction with
  | loadParameter index =>
      apply refers.pushOr
      intro value found
      exact given value (List.mem_of_getElem? found)
  | loadField index =>
      apply refers.pushOr
      intro value found
      exact refers.fields value (List.mem_of_getElem? found)
  | storeField index =>
      rw [step]
      cases stacked : machine.stack with
      | nil => exact refers
      | cons value rest =>
          obtain ⟨top, below⟩ := refers.pop stacked machine.output
          dsimp only
          split
          · refine ⟨below.stack, ?_⟩
            intro other present
            rcases List.mem_or_eq_of_mem_set present with before | rfl
            · exact refers.fields other before
            · exact top
          · exact below
  | pushString index =>
      apply refers.pushOr
      intro value found
      obtain ⟨text, _, rfl⟩ := Option.map_eq_some_iff.mp found
      trivial
  | pushInt number => exact refers.push trivial
  | concatenate count =>
      rw [step]
      split
      · exact refers
      · refine ⟨List.forall_mem_cons.mpr ⟨trivial, ?_⟩, refers.fields⟩
        intro value present
        exact refers.stack value (List.mem_of_mem_drop present)
  | callExternal name arity =>
      rw [step]
      split
      · cases stacked : machine.stack with
        | nil => exact refers
        | cons line rest => exact (refers.pop stacked _).2
      · exact refers
  | returnValue =>
      rw [step]
      cases stacked : machine.stack with
      | nil => exact refers
      | cons value rest => exact refers.pop stacked machine.output
  | returnVoid => exact ⟨trivial, refers⟩

/-- Code stores and returns no references but those that it is given. -/
theorem execute_refers
    (given : ∀ value ∈ frame.arguments, value.Refers property)
    (refers : machine.Refers property)
    (code : Code) :
    (∀ value ∈ (execute frame code machine).2.fields, value.Refers property) ∧
      ∀ value, (execute frame code machine).1 = .ok value → value.Refers property := by
  induction code generalizing machine with
  | nil =>
      refine ⟨refers.fields, ?_⟩
      intro value impossible
      cases impossible
  | cons instruction rest inductionHypothesis =>
      have stepped := step_refers given refers instruction
      rw [execute]
      cases result : machine.step frame instruction with
      | next after =>
          rw [result] at stepped
          exact inductionHypothesis stepped
      | done value after =>
          rw [result] at stepped
          refine ⟨stepped.2.fields, ?_⟩
          intro other same
          obtain rfl := Except.ok.inj same
          exact stepped.1
      | fault reason after =>
          rw [result] at stepped
          refine ⟨stepped.fields, ?_⟩
          intro value impossible
          cases impossible

end Machine

/-! ## Runs of members -/

namespace World

variable {arguments : List Value}

theorem constructorRun_refers
    (world : World)
    (type : LoadedType)
    (given : ∀ value ∈ arguments, value.Refers property) :
    ∀ value ∈ (world.constructorRun type arguments).2.fields, value.Refers property := by
  apply (Machine.execute_refers given _ _).1
  constructor
  · intro value impossible
    nomatch impossible
  · intro value present
    obtain ⟨field, _, rfl⟩ := List.mem_map.mp present
    exact Value.refers_initial field.type

theorem methodRun_refers
    (world : World)
    {object : Object}
    (fields : ∀ value ∈ object.fields, value.Refers property)
    (given : ∀ value ∈ arguments, value.Refers property)
    (method : Member) :
    (∀ value ∈ (world.methodRun object method arguments).2.fields, value.Refers property) ∧
      ∀ value, (world.methodRun object method arguments).1 = .ok value →
        value.Refers property := by
  apply Machine.execute_refers given
  constructor
  · intro value impossible
    nomatch impossible
  · exact fields

end World
end LateBinding
