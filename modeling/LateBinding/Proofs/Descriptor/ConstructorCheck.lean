import LateBinding.Proofs.Descriptor.Steps
import Mathlib.Data.List.Nodup
import Mathlib.Data.Set.List

/-!
# What the check of a constructor decides

The body of a constructor passes when each statement is one that a constructor can have, no field and no
parameter is used in two assignments, every parameter is used in one, and later parameters initialize
later fields.  The check goes through the statements with the targets of the parameters so far, and through
the targets afterwards.
-/

namespace LateBinding

/-! ## Bodies that fit -/

/-- An operand that names a field or a parameter names one that there is. -/
def Operand.IsDeclared (fields : List Field) (parameters : List ValueType) : Operand → Prop
  | field name => name ∈ fields.map Field.name
  | parameter number => 1 ≤ number ∧ number ≤ parameters.length
  | string _ => True
  | int _ => True

/-- A statement that a constructor can have. -/
def Statement.FitsConstructor (fields : List Field) (parameters : List ValueType) :
    Statement → Prop
  | assign name number =>
      ∃ field ∈ fields, field.name = name ∧ parameterType? parameters number = some field.type
  | print operands => ∀ operand ∈ operands, operand.IsDeclared fields parameters
  | returns value => value = none

/-- The fields that statements assign, each with its parameter. -/
def assignments : List Statement → List (String × Nat)
  | [] => []
  | .assign name number :: rest => (name, number) :: assignments rest
  | .print _ :: rest => assignments rest
  | .returns _ :: rest => assignments rest

/-- A parameter initializes the field at an index when the body assigns it to the field. -/
def Initializes (fields : List Field) (body : List Statement) (number index : Nat) : Prop :=
  ∃ field, fields[index]? = some field ∧ .assign field.name number ∈ body

/-- A body for a constructor of a type with some fields. -/
structure FitsConstructor
    (fields : List Field)
    (parameters : List ValueType)
    (body : List Statement) : Prop where
  statements : ∀ statement ∈ body, statement.FitsConstructor fields parameters
  /-- No field is assigned twice. -/
  fieldsOnce : ((assignments body).map Prod.fst).Nodup
  /-- No parameter is assigned twice. -/
  parametersOnce : ((assignments body).map Prod.snd).Nodup
  /-- Every parameter is assigned. -/
  complete : ∀ number, 1 ≤ number → number ≤ parameters.length →
    ∃ name, .assign name number ∈ body
  /-- Later parameters initialize fields that are declared later. -/
  increasing : ∀ number index laterNumber laterIndex,
    Initializes fields body number index → Initializes fields body laterNumber laterIndex →
      number < laterNumber → index < laterIndex

variable {fields : List Field} {parameters : List ValueType} {body : List Statement}

theorem mem_assignments_iff {name : String} {number : Nat} :
    (name, number) ∈ assignments body ↔ .assign name number ∈ body := by
  induction body with
  | nil => simp [assignments]
  | cons statement rest inductionHypothesis =>
      cases statement <;> simp [assignments, inductionHypothesis]

theorem parameterType?_isSome_iff {number : Nat} :
    (parameterType? parameters number).isSome = true ↔
      1 ≤ number ∧ number ≤ parameters.length := by
  unfold parameterType?
  split
  · next zero => simp [zero]
  · next positive =>
    rw [isSome_getElem?]
    omega

/-! ## Operands -/

theorem checkOperand_eq_ok_iff {operand : Operand} :
    checkOperand fields parameters operand = .ok () ↔ operand.IsDeclared fields parameters := by
  cases operand with
  | field name =>
      rw [checkOperand, Operand.IsDeclared, ← fieldIndex?_isSome_iff]
      split <;> simp_all
  | parameter number =>
      rw [checkOperand, Operand.IsDeclared, ← parameterType?_isSome_iff]
      split <;> simp_all
  | string text => simp [checkOperand, Operand.IsDeclared]
  | int number => simp [checkOperand, Operand.IsDeclared]

theorem checkOperands_eq_ok_iff {operands : List Operand} :
    checkOperands fields parameters operands = .ok () ↔
      ∀ operand ∈ operands, operand.IsDeclared fields parameters := by
  induction operands with
  | nil => simp [checkOperands]
  | cons operand rest inductionHypothesis =>
      rw [checkOperands, Outcome.bind_eq_ok_iff, List.forall_mem_cons, ← inductionHypothesis,
        ← checkOperand_eq_ok_iff, exists_and_right]
      exact and_congr_left fun _ => ⟨fun ⟨_, checked⟩ => checked, fun checked => ⟨(), checked⟩⟩

/-! ## The targets of parameters -/

/-- The targets of the parameters after assignments that have passed. -/
structure Records
    (fields : List Field)
    (parameters : List ValueType)
    (targets : ParameterTargets)
    (assigned : List (String × Nat)) : Prop where
  length : targets.length = parameters.length
  fieldsOnce : (assigned.map Prod.fst).Nodup
  parametersOnce : (assigned.map Prod.snd).Nodup
  /-- Each assignment is of a declared field from a parameter that there is. -/
  declared : ∀ assignment ∈ assigned,
    assignment.1 ∈ fields.map Field.name ∧ 1 ≤ assignment.2 ∧ assignment.2 ≤ parameters.length
  /-- A parameter has the index of the field that it is assigned to. -/
  target : ∀ position index, targets[position]? = some (some index) ↔
    ∃ name, (name, position + 1) ∈ assigned ∧ fieldIndex? fields name = some index

theorem records_nil :
    Records fields parameters (List.replicate parameters.length none) [] where
  length := List.length_replicate
  fieldsOnce := List.nodup_nil
  parametersOnce := List.nodup_nil
  declared _ impossible := nomatch impossible
  target position index := by simp [List.getElem?_replicate]

namespace Records

variable {targets after : ParameterTargets} {assigned : List (String × Nat)}
  {name : String} {number index : Nat}

/-- The fields that are targets are those that have been assigned. -/
theorem contains_iff
    (records : Records fields parameters targets assigned)
    (first : fieldIndex? fields name = some index) :
    targets.contains (some index) = true ↔ name ∈ assigned.map Prod.fst := by
  rw [List.contains_iff_mem, List.mem_iff_getElem?, List.mem_map]
  constructor
  · rintro ⟨position, there⟩
    obtain ⟨other, present, otherFirst⟩ := (records.target position index).mp there
    obtain ⟨field, at_, named⟩ := exists_field_of_fieldIndex? first
    obtain ⟨otherField, otherAt, otherNamed⟩ := exists_field_of_fieldIndex? otherFirst
    obtain rfl := Option.some.inj (at_.symm.trans otherAt)
    exact ⟨_, present, otherNamed.symm.trans named⟩
  · rintro ⟨⟨_, number⟩, present, rfl⟩
    obtain ⟨_, positive, _⟩ := records.declared _ present
    refine ⟨number - 1, (records.target _ index).mpr ⟨_, ?_, first⟩⟩
    rw [Nat.sub_add_cancel positive]
    exact present

/-- The parameters that have a target are those that have been assigned. -/
theorem isSome_iff
    (records : Records fields parameters targets assigned)
    (positive : 1 ≤ number) :
    (targets[number - 1]?.join).isSome = true ↔ number ∈ assigned.map Prod.snd := by
  rw [Option.isSome_iff_exists, List.mem_map]
  simp only [Option.join_eq_some_iff, records.target, Nat.sub_add_cancel positive]
  constructor
  · rintro ⟨index, name, present, _⟩
    exact ⟨_, present, rfl⟩
  · rintro ⟨⟨name, _⟩, present, rfl⟩
    obtain ⟨declared, _⟩ := records.declared _ present
    obtain ⟨index, first⟩ := Option.isSome_iff_exists.mp (fieldIndex?_isSome_iff.mpr declared)
    exact ⟨index, name, present, first⟩

/-- A further assignment, of a field and a parameter that have not been assigned. -/
theorem set
    (records : Records fields parameters targets assigned)
    (first : fieldIndex? fields name = some index)
    (positive : 1 ≤ number)
    (inside : number ≤ parameters.length)
    (newField : name ∉ assigned.map Prod.fst)
    (newParameter : number ∉ assigned.map Prod.snd) :
    Records fields parameters (targets.set (number - 1) (some index))
      (assigned ++ [(name, number)]) where
  length := List.length_set.trans records.length
  fieldsOnce := nodup_map_append_singleton records.fieldsOnce newField
  parametersOnce := nodup_map_append_singleton records.parametersOnce newParameter
  declared := by
    rw [List.forall_mem_append, List.forall_mem_singleton]
    exact ⟨records.declared, fieldIndex?_isSome_iff.mp (by rw [first]; rfl), positive, inside⟩
  target position other := by
    have slot : number - 1 < targets.length := by
      rw [records.length]
      omega
    by_cases here : number - 1 = position
    · subst here
      rw [List.getElem?_set_self slot, Nat.sub_add_cancel positive, Option.some.injEq]
      constructor
      · intro same
        exact ⟨name, List.mem_append_right assigned List.mem_cons_self, first.trans same⟩
      · rintro ⟨otherName, present, otherFirst⟩
        rcases List.mem_append.mp present with before | last
        · exact absurd (List.mem_map_of_mem before) newParameter
        · obtain ⟨rfl, _⟩ := Prod.mk.inj (List.mem_singleton.mp last)
          exact first.symm.trans otherFirst
    · rw [List.getElem?_set_ne here, records.target]
      have different : position + 1 ≠ number := by omega
      simp [different]

/-- An assignment that passes fits, and the targets record it. -/
theorem of_checkAssignment
    (records : Records fields parameters targets assigned)
    (checked : checkAssignment fields parameters targets name number = .ok after) :
    (Statement.assign name number).FitsConstructor fields parameters ∧
      Records fields parameters after (assigned ++ [(name, number)]) := by
  unfold checkAssignment at checked
  split at checked
  · nomatch checked
  next index field found =>
  obtain ⟨first, there⟩ := findField?_eq_some_iff.mp found
  split at checked
  · nomatch checked
  next source given =>
  obtain ⟨positive, inside⟩ := parameterType?_isSome_iff.mp (Option.isSome_of_eq_some given)
  obtain ⟨sameType, checked⟩ := Outcome.of_guard checked
  obtain ⟨newField, checked⟩ := Outcome.of_guard checked
  obtain ⟨newParameter, checked⟩ := Outcome.of_guard checked
  obtain rfl := Except.ok.inj checked
  constructor
  · exact ⟨field, List.mem_of_getElem? there, name_of_findField? found,
      given.trans (congrArg some (not_not.mp sameType))⟩
  · exact records.set first positive inside (mt (records.contains_iff first).mpr newField)
      (mt (records.isSome_iff positive).mpr newParameter)

/-- An assignment passes when it fits and its field and parameter have not been assigned. -/
theorem exists_checkAssignment
    (records : Records fields parameters targets assigned)
    (distinct : (fields.map Field.name).Nodup)
    (fits : (Statement.assign name number).FitsConstructor fields parameters)
    (newField : name ∉ assigned.map Prod.fst)
    (newParameter : number ∉ assigned.map Prod.snd) :
    ∃ after, checkAssignment fields parameters targets name number = .ok after := by
  obtain ⟨field, present, rfl, given⟩ := fits
  obtain ⟨index, there⟩ := List.mem_iff_getElem?.mp present
  have first := fieldIndex?_of_getElem? distinct there
  obtain ⟨positive, _⟩ := parameterType?_isSome_iff.mp (Option.isSome_of_eq_some given)
  have unassigned := mt (records.contains_iff first).mp newField
  have free := mt (records.isSome_iff positive).mp newParameter
  refine ⟨targets.set (number - 1) (some index), ?_⟩
  simp only [checkAssignment, findField?_eq_some_iff.mpr ⟨first, there⟩, given, ne_eq, not_true_eq_false,
    if_false, unassigned, free]
  rfl

/-- The statements that have passed fit, and the targets record their assignments. -/
theorem of_checkStatements
    (records : Records fields parameters targets assigned)
    (checked : checkStatements fields parameters targets body = .ok after) :
    (∀ statement ∈ body, statement.FitsConstructor fields parameters) ∧
      Records fields parameters after (assigned ++ assignments body) := by
  induction body generalizing targets assigned with
  | nil =>
      obtain rfl := Except.ok.inj checked
      rw [assignments, List.append_nil]
      exact ⟨nofun, records⟩
  | cons statement rest inductionHypothesis =>
      rw [List.forall_mem_cons]
      cases statement with
      | assign name number =>
          obtain ⟨between, first, checked⟩ := Outcome.bind_eq_ok_iff.mp checked
          obtain ⟨fits, recordsBetween⟩ := records.of_checkAssignment first
          obtain ⟨fitRest, recordsAfter⟩ := inductionHypothesis recordsBetween checked
          rw [List.append_assoc] at recordsAfter
          exact ⟨⟨fits, fitRest⟩, recordsAfter⟩
      | print operands =>
          obtain ⟨_, first, checked⟩ := Outcome.bind_eq_ok_iff.mp checked
          obtain ⟨fitRest, recordsAfter⟩ := inductionHypothesis records checked
          exact ⟨⟨checkOperands_eq_ok_iff.mp first, fitRest⟩, recordsAfter⟩
      | returns value =>
          cases value with
          | some operand => nomatch checked
          | none =>
              obtain ⟨fitRest, recordsAfter⟩ := inductionHypothesis records checked
              exact ⟨⟨rfl, fitRest⟩, recordsAfter⟩

/-- Statements that fit pass when they assign no field and no parameter a second time. -/
theorem exists_checkStatements
    (records : Records fields parameters targets assigned)
    (distinct : (fields.map Field.name).Nodup)
    (fit : ∀ statement ∈ body, statement.FitsConstructor fields parameters)
    (fieldsOnce : ((assigned ++ assignments body).map Prod.fst).Nodup)
    (parametersOnce : ((assigned ++ assignments body).map Prod.snd).Nodup) :
    ∃ after, checkStatements fields parameters targets body = .ok after := by
  induction body generalizing targets assigned with
  | nil => exact ⟨targets, rfl⟩
  | cons statement rest inductionHypothesis =>
      obtain ⟨fits, fitRest⟩ := List.forall_mem_cons.mp fit
      cases statement with
      | assign name number =>
          have newField : name ∉ assigned.map Prod.fst := by
            rw [List.map_append] at fieldsOnce
            exact fun present => (List.disjoint_of_nodup_append fieldsOnce) present List.mem_cons_self
          have newParameter : number ∉ assigned.map Prod.snd := by
            rw [List.map_append] at parametersOnce
            exact fun present =>
              (List.disjoint_of_nodup_append parametersOnce) present List.mem_cons_self
          obtain ⟨between, first⟩ :=
            records.exists_checkAssignment distinct fits newField newParameter
          rw [assignments, List.append_cons] at fieldsOnce parametersOnce
          obtain ⟨after, later⟩ := inductionHypothesis (records.of_checkAssignment first).2 fitRest
            fieldsOnce parametersOnce
          exact ⟨after, Outcome.bind_eq_ok_iff.mpr ⟨between, first, later⟩⟩
      | print operands =>
          obtain ⟨after, later⟩ := inductionHypothesis records fitRest fieldsOnce parametersOnce
          exact ⟨after, Outcome.bind_eq_ok_iff.mpr ⟨(), checkOperands_eq_ok_iff.mpr fits, later⟩⟩
      | returns value =>
          obtain rfl : value = none := fits
          exact inductionHypothesis records fitRest fieldsOnce parametersOnce

end Records

/-- Targets pass when every parameter has one and none is before that of the previous parameter. -/
theorem checkTargets_eq_ok_iff {previous : Option Nat} {number : Nat} {targets : ParameterTargets} :
    checkTargets fields previous number targets = .ok () ↔
      ∃ indices : List Nat, targets = indices.map some ∧
        (previous.toList ++ indices).IsChain (· ≤ ·) := by
  induction targets generalizing previous number with
  | nil =>
      have chain : (previous.toList ++ []).IsChain (· ≤ ·) := by
        cases previous <;> simp
      exact ⟨fun _ => ⟨[], rfl, chain⟩, fun _ => rfl⟩
  | cons target rest inductionHypothesis =>
      cases target with
      | none =>
          constructor
          · intro impossible
            nomatch impossible
          · rintro ⟨indices, same, _⟩
            cases indices <;> nomatch same
      | some index =>
          have split : (∃ indices : List Nat, some index :: rest = indices.map some ∧
              (previous.toList ++ indices).IsChain (· ≤ ·)) ↔
              ∃ later : List Nat, rest = later.map some ∧
                (previous.toList ++ index :: later).IsChain (· ≤ ·) := by
            constructor
            · rintro ⟨indices, same, chain⟩
              obtain ⟨first, later, rfl, sameIndex, rfl⟩ := List.map_eq_cons_iff.mp same.symm
              obtain rfl := Option.some.inj sameIndex
              exact ⟨later, rfl, chain⟩
            · rintro ⟨later, rfl, chain⟩
              exact ⟨index :: later, rfl, chain⟩
          rw [checkTargets, split]
          cases previous with
          | none => exact inductionHypothesis
          | some before =>
              by_cases inOrder : before ≤ index
              · have passes : ¬ (some before).any (fun last => decide (index < last)) = true := by
                  simpa using inOrder
                rw [if_neg passes, inductionHypothesis]
                simp [inOrder]
              · have fails : (some before).any (fun last => decide (index < last)) = true := by
                  simpa using inOrder
                rw [if_pos fails]
                simp [inOrder]

/-! ## The whole check -/

namespace Records

variable {targets : ParameterTargets}

/-- The target of a parameter is the index of the field that it initializes. -/
theorem target_iff_initializes
    (records : Records fields parameters targets (assignments body))
    (distinct : (fields.map Field.name).Nodup)
    {position index : Nat} :
    targets[position]? = some (some index) ↔ Initializes fields body (position + 1) index := by
  rw [records.target]
  constructor
  · rintro ⟨name, present, first⟩
    obtain ⟨field, there, rfl⟩ := exists_field_of_fieldIndex? first
    exact ⟨field, there, mem_assignments_iff.mp present⟩
  · rintro ⟨field, there, present⟩
    exact ⟨field.name, mem_assignments_iff.mpr present, fieldIndex?_of_getElem? distinct there⟩

theorem positive_of_initializes
    (records : Records fields parameters targets (assignments body))
    {number index : Nat}
    (initializes : Initializes fields body number index) :
    1 ≤ number := by
  obtain ⟨field, _, present⟩ := initializes
  exact (records.declared _ (mem_assignments_iff.mpr present)).2.1

/-- No two parameters initialize one field. -/
theorem number_unique
    (records : Records fields parameters targets (assignments body))
    {number other index : Nat}
    (initializes : Initializes fields body number index)
    (initializesToo : Initializes fields body other index) :
    number = other := by
  obtain ⟨field, there, present⟩ := initializes
  obtain ⟨otherField, otherThere, otherPresent⟩ := initializesToo
  obtain rfl := Option.some.inj (there.symm.trans otherThere)
  have same := List.inj_on_of_nodup_map records.fieldsOnce (mem_assignments_iff.mpr present)
    (mem_assignments_iff.mpr otherPresent) rfl
  exact (Prod.mk.inj same).2

/-- Targets of all parameters, as the indices of the initialized fields. -/
theorem getElem?_iff_initializes
    {indices : List Nat}
    (records : Records fields parameters (indices.map some) (assignments body))
    (distinct : (fields.map Field.name).Nodup)
    {number index : Nat}
    (positive : 1 ≤ number) :
    indices[number - 1]? = some index ↔ Initializes fields body number index := by
  have target := @target_iff_initializes _ _ _ _ records distinct (number - 1) index
  rw [Nat.sub_add_cancel positive, List.getElem?_map] at target
  rw [← target]
  simp

/-- Where all parameters have targets, each of them is assigned. -/
theorem exists_assignment
    {indices : List Nat}
    (records : Records fields parameters (indices.map some) (assignments body))
    (distinct : (fields.map Field.name).Nodup)
    {number : Nat}
    (positive : 1 ≤ number)
    (inside : number ≤ parameters.length) :
    ∃ name, .assign name number ∈ body := by
  have bound : number - 1 < indices.length := by
    have length := records.length
    rw [List.length_map] at length
    omega
  obtain ⟨field, _, present⟩ :=
    (records.getElem?_iff_initializes distinct positive).mp (List.getElem?_eq_getElem bound)
  exact ⟨field.name, present⟩

/-- Targets in order are strictly in order, since no field is the target of two parameters. -/
theorem increasing_of_sorted
    {indices : List Nat}
    (records : Records fields parameters (indices.map some) (assignments body))
    (distinct : (fields.map Field.name).Nodup)
    (sorted : indices.Pairwise (· ≤ ·))
    {number index laterNumber laterIndex : Nat}
    (first : Initializes fields body number index)
    (second : Initializes fields body laterNumber laterIndex)
    (earlier : number < laterNumber) :
    index < laterIndex := by
  have positive := records.positive_of_initializes first
  have there := (records.getElem?_iff_initializes distinct positive).mpr first
  have laterThere := (records.getElem?_iff_initializes distinct
    (records.positive_of_initializes second)).mpr second
  obtain ⟨bound, rfl⟩ := List.getElem?_eq_some_iff.mp there
  obtain ⟨laterBound, rfl⟩ := List.getElem?_eq_some_iff.mp laterThere
  apply Nat.lt_of_le_of_ne
    (List.pairwise_iff_getElem.mp sorted _ _ bound laterBound (by omega))
  intro same
  rw [same] at first
  exact absurd (records.number_unique first second) (Nat.ne_of_lt earlier)

/-- The targets of a body that fits are there and in order. -/
theorem exists_indices
    (records : Records fields parameters targets (assignments body))
    (distinct : (fields.map Field.name).Nodup)
    (fits : FitsConstructor fields parameters body) :
    ∃ indices : List Nat, targets = indices.map some ∧ indices.Pairwise (· ≤ ·) := by
  have targeted : targets ∈ Set.range (List.map (some : Nat → Option Nat)) := by
    rw [Set.range_list_map]
    intro target present
    obtain ⟨position, there⟩ := List.mem_iff_getElem?.mp present
    have inside := (List.getElem?_eq_some_iff.mp there).1
    rw [records.length] at inside
    obtain ⟨name, assigned⟩ := fits.complete (position + 1) (by omega) (by omega)
    obtain ⟨field, among, rfl, _⟩ := fits.statements _ assigned
    obtain ⟨index, located⟩ := List.mem_iff_getElem?.mp among
    have same := (records.target_iff_initializes distinct).mpr ⟨field, located, assigned⟩
    exact ⟨index, Option.some.inj (same.symm.trans there)⟩
  obtain ⟨indices, rfl⟩ := targeted
  refine ⟨indices, rfl, List.pairwise_iff_getElem.mpr ?_⟩
  intro position later bound laterBound earlier
  have first := (records.getElem?_iff_initializes distinct (Nat.le_add_left 1 position)).mp
    (List.getElem?_eq_getElem bound)
  have second := (records.getElem?_iff_initializes distinct (Nat.le_add_left 1 later)).mp
    (List.getElem?_eq_getElem laterBound)
  exact Nat.le_of_lt (fits.increasing _ _ _ _ first second (Nat.succ_lt_succ earlier))

end Records

/-- A body passes the check exactly when it fits. -/
theorem checkConstructorBody_eq_ok_iff (distinct : (fields.map Field.name).Nodup) :
    checkConstructorBody fields parameters body = .ok () ↔
      FitsConstructor fields parameters body := by
  rw [checkConstructorBody, Outcome.bind_eq_ok_iff]
  constructor
  · rintro ⟨targets, checked, inOrder⟩
    obtain ⟨fit, records⟩ := records_nil.of_checkStatements checked
    rw [List.nil_append] at records
    obtain ⟨indices, rfl, chain⟩ := checkTargets_eq_ok_iff.mp inOrder
    exact
      { statements := fit
        fieldsOnce := records.fieldsOnce
        parametersOnce := records.parametersOnce
        complete := fun _ positive inside => records.exists_assignment distinct positive inside
        increasing := fun _ _ _ _ => records.increasing_of_sorted distinct
          (List.isChain_iff_pairwise.mp chain) }
  · intro fits
    obtain ⟨targets, checked⟩ := records_nil.exists_checkStatements distinct fits.statements
      fits.fieldsOnce fits.parametersOnce
    obtain ⟨_, records⟩ := records_nil.of_checkStatements checked
    rw [List.nil_append] at records
    obtain ⟨indices, rfl, sorted⟩ := records.exists_indices distinct fits
    exact ⟨_, checked,
      checkTargets_eq_ok_iff.mpr ⟨indices, rfl, List.isChain_iff_pairwise.mpr sorted⟩⟩

end LateBinding
