import LateBinding.Proofs.Descriptor.Interpretation

/-!
# Calls that are repeated

A method assigns nothing but its arguments, so a second call with the same arguments finds the fields as
it leaves them.  All calls after the first therefore print the same lines.  The first prints them too if
no field is printed before the method has assigned it; otherwise it prints what the field held before.
-/

namespace LateBinding

/-- The field that an operand reads. -/
def Operand.field? : Operand → Option String
  | field name => some name
  | _ => none

/-- The fields that statements assign. -/
def assignedFields : List Statement → List String
  | [] => []
  | .assign name _ :: rest => name :: assignedFields rest
  | .print _ :: rest => assignedFields rest
  | .returns _ :: _ => []

/-- The fields that statements print with the values from before, as they have not assigned them yet. -/
def fieldsPrintedFirst : List Statement → List String
  | [] => []
  | .assign name _ :: rest => (fieldsPrintedFirst rest).filter fun other => other ≠ name
  | .print operands :: rest => operands.filterMap Operand.field? ++ fieldsPrintedFirst rest
  | .returns _ :: _ => []

/-- No field is printed first and assigned later. -/
def PrintsSettledFields (statements : List Statement) : Prop :=
  ∀ name ∈ fieldsPrintedFirst statements, name ∉ assignedFields statements

instance (statements : List Statement) : Decidable (PrintsSettledFields statements) :=
  inferInstanceAs (Decidable (∀ name ∈ fieldsPrintedFirst statements, name ∉ assignedFields statements))

/-- The value that statements give to a field, the last one if there are several. -/
def assignedValue? (arguments : List Value) (name : String) : List Statement → Option Value
  | [] => none
  | .assign other number :: rest =>
      (assignedValue? arguments name rest).or
        (if name = other then argument? arguments number else none)
  | .print _ :: rest => assignedValue? arguments name rest
  | .returns _ :: _ => none

variable {arguments : List Value} {store : FieldStore} {statements : List Statement}
  {effect : Effect}

/-! ## Single statements -/

theorem effect?_assign_eq_some_iff {name : String} {number : Nat} :
    effect? arguments store (.assign name number :: statements) = some effect ↔
      ∃ old value, store name = some old ∧ argument? arguments number = some value ∧
        effect? arguments (store.assign name value) statements = some effect := by
  simp [effect?, Option.bind_eq_some_iff]

theorem effect?_print_eq_some_iff {operands : List Operand} :
    effect? arguments store (.print operands :: statements) = some effect ↔
      ∃ values later, operands.mapM (Operand.value? arguments store) = some values ∧
        effect? arguments store statements = some later ∧
        effect = { later with lines := String.join (values.map Value.text) :: later.lines } := by
  simp only [effect?, Option.bind_eq_bind, Option.bind_eq_some_iff, Option.pure_def,
    Option.some.injEq, eq_comm (a := effect)]
  simp only [exists_and_left]

/-- A return leaves the fields alone and prints nothing. -/
theorem eq_of_effect?_returns
    {operand : Option Operand}
    (meaning : effect? arguments store (.returns operand :: statements) = some effect) :
    effect.store = store ∧ effect.lines = [] := by
  cases operand with
  | none =>
      obtain rfl := Option.some.inj meaning
      exact ⟨rfl, rfl⟩
  | some operand =>
      obtain ⟨_, _, same⟩ := Option.bind_eq_some_iff.mp meaning
      obtain rfl := Option.some.inj same
      exact ⟨rfl, rfl⟩

/-! ## The fields -/

theorem assignedValue?_eq_none
    {name : String}
    (unassigned : name ∉ assignedFields statements) :
    assignedValue? arguments name statements = none := by
  induction statements with
  | nil => rfl
  | cons statement rest inductionHypothesis =>
      cases statement with
      | assign other number =>
          have different : name ≠ other := fun named => unassigned (named ▸ List.mem_cons_self)
          have later := fun present => unassigned (List.mem_cons_of_mem other present)
          rw [assignedValue?, inductionHypothesis later, if_neg different]
          rfl
      | print operands => exact inductionHypothesis unassigned
      | returns value => rfl

/-- What statements leave in a field is what they assign to it, or else its old value. -/
theorem store_of_effect?
    (meaning : effect? arguments store statements = some effect)
    (name : String) :
    effect.store name = (assignedValue? arguments name statements).or (store name) := by
  induction statements generalizing store effect with
  | nil =>
      obtain rfl := Option.some.inj meaning
      rfl
  | cons statement rest inductionHypothesis =>
      cases statement with
      | assign other number =>
          obtain ⟨_, value, _, given, meaning⟩ := effect?_assign_eq_some_iff.mp meaning
          rw [inductionHypothesis meaning, FieldStore.assign, assignedValue?, given]
          by_cases named : name = other
          · rw [if_pos named, if_pos named, Option.or_assoc, Option.some_or]
          · rw [if_neg named, if_neg named, Option.or_none]
      | print operands =>
          obtain ⟨_, later, _, meaningLater, rfl⟩ := effect?_print_eq_some_iff.mp meaning
          have kept := inductionHypothesis meaningLater
          exact kept
      | returns value => rw [(eq_of_effect?_returns meaning).1, assignedValue?, Option.none_or]

/-- Statements that are carried out again leave the fields as they find them. -/
theorem store_of_effect?_again
    (meaning : effect? arguments store statements = some effect)
    {again : Effect}
    (meaningAgain : effect? arguments effect.store statements = some again) :
    again.store = effect.store := by
  funext name
  rw [store_of_effect? meaningAgain, store_of_effect? meaning, ← Option.or_assoc, Option.or_self]

/-! ## The lines -/

theorem mapM_value?_congr
    {other : FieldStore}
    {operands : List Operand}
    (agree : ∀ name ∈ operands.filterMap Operand.field?, store name = other name) :
    operands.mapM (Operand.value? arguments store) =
      operands.mapM (Operand.value? arguments other) := by
  induction operands with
  | nil => rfl
  | cons operand rest inductionHypothesis =>
      have same : operand.value? arguments store = operand.value? arguments other := by
        cases operand with
        | field name => exact agree name (by simp [Operand.field?])
        | _ => rfl
      have sameLater := inductionHypothesis fun name read => agree name (by
        obtain ⟨reader, present, reads⟩ := List.mem_filterMap.mp read
        exact List.mem_filterMap.mpr ⟨reader, List.mem_cons_of_mem operand present, reads⟩)
      rw [List.mapM_cons, List.mapM_cons, same, sameLater]

/-- The lines depend on no fields but those that are printed before they are assigned. -/
theorem lines_eq_of_agree
    {other : FieldStore}
    {otherEffect : Effect}
    (agree : ∀ name ∈ fieldsPrintedFirst statements, store name = other name)
    (meaning : effect? arguments store statements = some effect)
    (otherMeaning : effect? arguments other statements = some otherEffect) :
    effect.lines = otherEffect.lines := by
  induction statements generalizing store other effect otherEffect with
  | nil =>
      obtain rfl := Option.some.inj meaning
      obtain rfl := Option.some.inj otherMeaning
      rfl
  | cons statement rest inductionHypothesis =>
      cases statement with
      | assign name number =>
          obtain ⟨_, value, _, given, meaning⟩ := effect?_assign_eq_some_iff.mp meaning
          obtain ⟨_, otherValue, _, otherGiven, otherMeaning⟩ :=
            effect?_assign_eq_some_iff.mp otherMeaning
          obtain rfl := Option.some.inj (given.symm.trans otherGiven)
          apply inductionHypothesis _ meaning otherMeaning
          intro read printed
          rw [FieldStore.assign, FieldStore.assign]
          by_cases named : read = name
          · rw [if_pos named, if_pos named]
          · rw [if_neg named, if_neg named]
            exact agree read (List.mem_filter.mpr ⟨printed, decide_eq_true named⟩)
      | print operands =>
          obtain ⟨values, later, known, meaningLater, rfl⟩ :=
            effect?_print_eq_some_iff.mp meaning
          obtain ⟨otherValues, otherLater, otherKnown, otherMeaningLater, rfl⟩ :=
            effect?_print_eq_some_iff.mp otherMeaning
          obtain ⟨agreeHere, agreeLater⟩ := List.forall_mem_append.mp agree
          rw [mapM_value?_congr agreeHere] at known
          obtain rfl := Option.some.inj (known.symm.trans otherKnown)
          rw [inductionHypothesis agreeLater meaningLater otherMeaningLater]
      | returns value =>
          rw [(eq_of_effect?_returns meaning).2, (eq_of_effect?_returns otherMeaning).2]

/-- Statements that print settled fields print the same lines when they are carried out again. -/
theorem PrintsSettledFields.lines_again
    (settled : PrintsSettledFields statements)
    (meaning : effect? arguments store statements = some effect)
    {again : Effect}
    (meaningAgain : effect? arguments effect.store statements = some again) :
    again.lines = effect.lines := by
  apply lines_eq_of_agree _ meaningAgain meaning
  intro name printed
  rw [store_of_effect? meaning, assignedValue?_eq_none (settled name printed), Option.none_or]

/-! ## Calls -/

namespace TypeDescription

variable {description : TypeDescription} {loader : LoaderId} {call : Call} {first later : Effect}

/-- All calls after the first one have the effect of the second. -/
theorem calls?_replicate
    (meaning : description.call? loader store call = some first)
    (meaningAgain : description.call? loader first.store call = some later)
    (settled : later.store = first.store)
    (count : Nat) :
    description.calls? loader store (List.replicate (count + 1) call) =
      some ⟨first.result :: List.replicate count later.result, first.store,
        first.lines ++ (List.replicate count later.lines).flatten⟩ := by
  have repeated : ∀ times, description.calls? loader first.store (List.replicate times call) =
      some ⟨List.replicate times later.result, first.store,
        (List.replicate times later.lines).flatten⟩ := by
    intro times
    induction times with
    | zero => rfl
    | succ times inductionHypothesis =>
        simp [List.replicate_succ, calls?, meaningAgain, settled, inductionHypothesis]
  simp [List.replicate_succ, calls?, meaning, repeated count]

end TypeDescription
end LateBinding
