import LateBinding.Proofs.Lowering.Execution

/-!
# The types of values

The code of statements keeps the types of fields and results, although nothing looks at types while it
runs.  What a statement assigns or returns has the type that was compared when it was lowered, so the
effect of statements is typed; and the code has the effect of its statements.
-/

namespace LateBinding

/-- What a member with a type of result returns: a value of the type, or nothing if it is void. -/
def ValueType.Admits (result : ValueType) (loader : LoaderId) (value : Value) : Prop :=
  if result = .void then value = .null else value.isAccepted result loader = true

/-- As many values as fields, each of them of the type of its field. -/
def FieldsAccept (loader : LoaderId) : List Field → List Value → Prop :=
  List.Forall₂ fun field value => value.isAccepted field.type loader = true

/-- The values that a store has for fields are of the types of the fields. -/
def FieldStore.IsTyped (loader : LoaderId) (fields : List Field) (store : FieldStore) : Prop :=
  ∀ field ∈ fields, ∀ value, store field.name = some value →
    value.isAccepted field.type loader = true

variable {loader : LoaderId} {fields : List Field} {values arguments : List Value}
  {store : FieldStore}

theorem ValueType.Admits.null
    {result : ValueType}
    (void : result = .void) :
    result.Admits loader .null :=
  (if_pos void).mpr rfl

/-! ## Values by name and by index -/

/-- The initial value of a type is of the type, unless nothing is. -/
theorem Value.isAccepted_initial
    {type : ValueType}
    (valued : type ≠ .void)
    (loader : LoaderId) :
    (Value.initial type).isAccepted type loader = true := by
  cases type with
  | void => exact absurd rfl valued
  | _ => rfl

theorem fieldsAccept_initial
    (valued : ∀ field ∈ fields, field.type ≠ .void)
    (loader : LoaderId) :
    FieldsAccept loader fields (fields.map fun field => Value.initial field.type) := by
  unfold FieldsAccept
  rw [List.forall₂_map_right_iff, List.forall₂_same]
  intro field present
  exact Value.isAccepted_initial (valued field present) loader

theorem isAccepted_of_acceptsAll
    {parameters : List ValueType}
    (accepts : acceptsAll loader parameters arguments = true)
    {index : Nat}
    {type : ValueType}
    {value : Value}
    (declared : parameters[index]? = some type)
    (given : arguments[index]? = some value) :
    value.isAccepted type loader = true := by
  have together : (parameters.zip arguments)[index]? = some (type, value) :=
    List.getElem?_zip_eq_some.mpr ⟨declared, given⟩
  exact List.all_eq_true.mp accepts _ (List.mem_of_getElem? together)

namespace FieldStore

/-- The store in which the names of fields have the values at their indices. -/
def ofValues (fields : List Field) (values : List Value) : FieldStore := fun name =>
  (fieldIndex? fields name).bind fun index => values[index]?

theorem ofValues_agrees
    (distinct : (fields.map Field.name).Nodup)
    (asMany : values.length = fields.length) :
    (ofValues fields values).Agrees fields values := by
  apply List.ext_getElem?
  intro index
  rw [List.getElem?_map, List.getElem?_map]
  cases there : fields[index]? with
  | none =>
      have behind : values.length ≤ index := by
        rw [asMany]
        exact List.getElem?_eq_none_iff.mp there
      rw [List.getElem?_eq_none behind]
      rfl
  | some field =>
      -- The first field of this name is this one, since no other has the name.
      obtain ⟨first, other, found⟩ :=
        exists_findField? (List.mem_map_of_mem (List.mem_of_getElem? there))
      obtain ⟨located, otherThere⟩ := findField?_eq_some_iff.mp found
      have sameName : (fields.map Field.name)[first]? = (fields.map Field.name)[index]? := by
        rw [List.getElem?_map, List.getElem?_map, otherThere, there, Option.map_some,
          Option.map_some, name_of_findField? found]
      have inside : first < (fields.map Field.name).length := by
        rw [List.length_map]
        exact (List.getElem?_eq_some_iff.mp otherThere).1
      obtain rfl := (List.getElem?_inj inside distinct).mp sameName
      have insideValues : first < values.length := by
        rw [asMany]
        exact (List.getElem?_eq_some_iff.mp there).1
      simp [ofValues, located, List.getElem?_eq_getElem insideValues]

theorem Agrees.fieldsAccept_iff (agrees : store.Agrees fields values) :
    FieldsAccept loader fields values ↔ store.IsTyped loader fields := by
  induction fields generalizing values with
  | nil =>
      obtain rfl : values = [] := by simpa [Agrees] using agrees
      constructor
      · intro _ field impossible
        nomatch impossible
      · intro _
        exact List.Forall₂.nil
  | cons field rest inductionHypothesis =>
      cases values with
      | nil => simp [Agrees] at agrees
      | cons value later =>
          obtain ⟨known, agreesLater⟩ := List.cons.inj agrees
          rw [FieldsAccept, List.forall₂_cons]
          constructor
          · rintro ⟨accepted, acceptedLater⟩ other present found same
            rcases List.mem_cons.mp present with rfl | inRest
            · obtain rfl := Option.some.inj (known.trans same)
              exact accepted
            · exact (inductionHypothesis agreesLater).mp acceptedLater other inRest found same
          · intro typed
            refine ⟨typed field List.mem_cons_self value known.symm, ?_⟩
            apply (inductionHypothesis agreesLater).mpr
            intro other inRest
            exact typed other (List.mem_cons_of_mem field inRest)

/-- Assigning a value of a field's type to its name keeps the types, when no other field has the name. -/
theorem IsTyped.assign
    (typed : store.IsTyped loader fields)
    (distinct : (fields.map Field.name).Nodup)
    {name : String}
    {index : Nat}
    {field : Field}
    (found : findField? fields name = some (index, field))
    {value : Value}
    (accepted : value.isAccepted field.type loader = true) :
    (store.assign name value).IsTyped loader fields := by
  intro other present held known
  by_cases named : other.name = name
  · have same : field = other := by
      have inFields := List.mem_of_getElem? (findField?_eq_some_iff.mp found).2
      apply List.inj_on_of_nodup_map distinct inFields present
      rw [name_of_findField? found, named]
    subst same
    rw [FieldStore.assign, if_pos named] at known
    obtain rfl := Option.some.inj known
    exact accepted
  · rw [FieldStore.assign, if_neg named] at known
    exact typed other present held known

end FieldStore

/-! ## The effect of statements -/

variable {context : MemberContext} {strings : StringPool}

/-- An effect that keeps the types of the fields and returns what the member may return. -/
structure Effect.IsTyped (context : MemberContext) (loader : LoaderId) (effect : Effect) : Prop where
  store : effect.store.IsTyped loader context.fields
  result : context.result.Admits loader effect.result

theorem isAccepted_of_argument?
    (accepts : acceptsAll loader context.parameters arguments = true)
    {number : Nat}
    {type : ValueType}
    {value : Value}
    (declared : parameterType? context.parameters number = some type)
    (given : argument? arguments number = some value) :
    value.isAccepted type loader = true := by
  unfold parameterType? at declared
  unfold argument? at given
  split at declared
  · nomatch declared
  · next counted =>
    rw [if_neg counted] at given
    exact isAccepted_of_acceptsAll accepts declared given

/-- The value of an operand is of the operand's type. -/
theorem OperandCode.isAccepted
    {operand : Operand}
    {type : ValueType}
    {instruction : Instruction}
    (has : OperandCode context strings operand type instruction)
    (accepts : acceptsAll loader context.parameters arguments = true)
    (typed : store.IsTyped loader context.fields)
    {value : Value}
    (known : operand.value? arguments store = some value) :
    value.isAccepted type loader = true := by
  cases has with
  | field found =>
      have present := List.mem_of_getElem? (findField?_eq_some_iff.mp found).2
      apply typed _ present
      rw [name_of_findField? found]
      exact known
  | parameter declared => exact isAccepted_of_argument? accepts declared known
  | string _ =>
      obtain rfl := Option.some.inj known
      rfl
  | int =>
      obtain rfl := Option.some.inj known
      rfl

/-- Statements that have been lowered have a typed effect on typed fields. -/
theorem BodyCode.isTyped_effect
    {statements : List Statement}
    {code : Code}
    (has : BodyCode context strings statements code)
    (fits : context.Fits)
    (accepts : acceptsAll loader context.parameters arguments = true)
    (typed : store.IsTyped loader context.fields)
    {effect : Effect}
    (meaning : effect? arguments store statements = some effect) :
    effect.IsTyped context loader := by
  induction has generalizing store effect with
  | nil void =>
      obtain rfl := Option.some.inj meaning
      exact ⟨typed, .null void⟩
  | assign found declared _ inductionHypothesis =>
      obtain ⟨_, _, meaning⟩ := Option.bind_eq_some_iff.mp meaning
      obtain ⟨value, given, meaning⟩ := Option.bind_eq_some_iff.mp meaning
      have accepted := isAccepted_of_argument? accepts declared given
      exact inductionHypothesis (typed.assign fits.distinct found accepted) meaning
  | print _ _ _ inductionHypothesis =>
      obtain ⟨_, _, meaning⟩ := Option.bind_eq_some_iff.mp meaning
      obtain ⟨later, meaningLater, same⟩ := Option.bind_eq_some_iff.mp meaning
      obtain rfl := Option.some.inj same
      have typedLater := inductionHypothesis typed meaningLater
      exact ⟨typedLater.store, typedLater.result⟩
  | returnsNothing void =>
      obtain rfl := Option.some.inj meaning
      exact ⟨typed, .null void⟩
  | returnsValue valued pushes =>
      obtain ⟨value, known, same⟩ := Option.bind_eq_some_iff.mp meaning
      obtain rfl := Option.some.inj same
      refine ⟨typed, ?_⟩
      rw [ValueType.Admits, if_neg valued]
      exact pushes.isAccepted accepts typed known

/-- The code of statements returns a value that the member may return and keeps the types of fields. -/
theorem BodyCode.execute_isTyped
    {statements : List Statement}
    {code : Code}
    (has : BodyCode context strings statements code)
    (fits : context.Fits)
    (machine : Machine)
    (asMany : arguments.length = context.parameters.length)
    (accepts : acceptsAll loader context.parameters arguments = true)
    (typed : FieldsAccept loader context.fields machine.fields) :
    ∃ value after, Machine.execute ⟨strings, arguments⟩ code machine = (.ok value, after) ∧
      context.result.Admits loader value ∧ FieldsAccept loader context.fields after.fields := by
  have agrees := FieldStore.ofValues_agrees fits.distinct typed.length_eq.symm
  obtain ⟨effect, after, meaning, executed, _, agreesAfter⟩ := has.execute fits ⟨asMany, agrees⟩
  have typedEffect := has.isTyped_effect fits accepts (agrees.fieldsAccept_iff.mp typed) meaning
  exact ⟨effect.result, after, executed, typedEffect.result,
    agreesAfter.fieldsAccept_iff.mpr typedEffect.store⟩

end LateBinding
