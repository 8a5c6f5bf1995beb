import LateBinding.Proofs.Descriptor.Coherence
import LateBinding.Proofs.Descriptor.ConstructorCheck
import LateBinding.Proofs.Lowering.Image
import LateBinding.Proofs.Pipeline

/-!
# Which types are lowered

A type is lowered exactly when it is narrow enough and the bodies of its members are well-formed, which
is said here of the statements alone.  The pool has no part in it: a text can always be added.  What a
constructor has to be when it is set leaves two of the rules open, that nothing follows a return and that
no line is put together of too many operands.
-/

namespace LateBinding

/-! ## Bodies that can be lowered -/

/-- The type of the value of an operand. -/
inductive Operand.HasType (fields : List Field) (parameters : List ValueType) :
    Operand → ValueType → Prop
  /-- The first field of a name is the one that is read. -/
  | field {name : String} {field : Field} :
      fields.find? (fun other => other.name = name) = some field →
      HasType fields parameters (.field name) field.type
  | parameter {number : Nat} {type : ValueType} :
      parameterType? parameters number = some type →
      HasType fields parameters (.parameter number) type
  | string {text : String} : HasType fields parameters (.string text) .string
  | int {number : Int32} : HasType fields parameters (.int number) .int

/-- A statement that a member with a result type can have. -/
def Statement.FitsMember
    (fields : List Field)
    (parameters : List ValueType)
    (result : ValueType) :
    Statement → Prop
  | assign name number =>
      ∃ field, fields.find? (fun other => other.name = name) = some field ∧
        parameterType? parameters number = some field.type
  | print operands =>
      operands.length ≤ 255 ∧ ∀ operand ∈ operands, operand.IsDeclared fields parameters
  | returns none => result = .void
  | returns (some operand) => result ≠ .void ∧ operand.HasType fields parameters result

/-- The first return of a body, if there is any, is its last statement. -/
def NothingFollowsReturn (body : List Statement) : Prop :=
  ∀ front value behind, body = front ++ .returns value :: behind → behind = []

/-- No line of a body is put together of more than 255 operands. -/
def PrintsShortLines (body : List Statement) : Prop :=
  ∀ operands, .print operands ∈ body → operands.length ≤ 255

/-- A body for a member of a type with some fields. -/
structure FitsMember
    (fields : List Field)
    (parameters : List ValueType)
    (result : ValueType)
    (body : List Statement) : Prop where
  statements : ∀ statement ∈ body, statement.FitsMember fields parameters result
  nothingFollows : NothingFollowsReturn body
  /-- A member that is not void ends in a return. -/
  returns : result ≠ .void → ∃ value, body.getLast? = some (.returns value)

/-- A type whose members all have bodies that fit them. -/
structure FrozenType.IsLowerable (type : FrozenType) : Prop where
  few : type.description.fields.length ≤ 65535
  constructor : ∀ given, type.description.constructor = some given →
    FitsMember type.description.fields given.parameters .void given.body
  /-- The texts of the bodies are understood, and the statements of all of them fit. -/
  methods : ∀ method ∈ type.description.methods, ∃ statements,
    method.statements? = some statements ∧
      FitsMember type.description.fields method.parameters method.result statements

variable {fields : List Field} {parameters : List ValueType} {result : ValueType}
  {statement : Statement} {rest body : List Statement}

theorem nothingFollowsReturn_cons_iff :
    NothingFollowsReturn (statement :: rest) ↔
      (∀ value, statement = .returns value → rest = []) ∧ NothingFollowsReturn rest := by
  constructor
  · intro nothing
    refine ⟨?_, ?_⟩
    · rintro value rfl
      exact nothing [] value rest rfl
    · rintro front value behind rfl
      exact nothing (statement :: front) value behind rfl
  · rintro ⟨first, later⟩ front value behind same
    cases front with
    | nil =>
        obtain ⟨rfl, rfl⟩ := List.cons.inj same
        exact first value rfl
    | cons other front =>
        obtain ⟨_, rfl⟩ := List.cons.inj same
        exact later front value behind rfl

theorem nothingFollowsReturn_nil : NothingFollowsReturn [] :=
  fun _ _ _ same => absurd same.symm (List.append_ne_nil_of_right_ne_nil _ (List.cons_ne_nil _ _))

theorem fitsMember_nil_iff : FitsMember fields parameters result [] ↔ result = .void := by
  constructor
  · intro fits
    by_contra valued
    obtain ⟨_, impossible⟩ := fits.returns valued
    nomatch impossible
  · intro void
    exact ⟨nofun, nothingFollowsReturn_nil, fun valued => absurd void valued⟩

/-- A return is the whole of what is left of a body. -/
theorem fitsMember_returns_iff {value : Option Operand} :
    FitsMember fields parameters result (.returns value :: rest) ↔
      (Statement.returns value).FitsMember fields parameters result ∧ rest = [] := by
  constructor
  · intro fits
    exact ⟨fits.statements _ List.mem_cons_self,
      (nothingFollowsReturn_cons_iff.mp fits.nothingFollows).1 value rfl⟩
  · rintro ⟨fits, rfl⟩
    exact ⟨List.forall_mem_singleton.mpr fits,
      nothingFollowsReturn_cons_iff.mpr ⟨fun _ _ => rfl, nothingFollowsReturn_nil⟩,
      fun _ => ⟨value, rfl⟩⟩

/-- In front of a body that fits there can be any statement that fits and is no return. -/
theorem fitsMember_cons_iff (continues : ∀ value, statement ≠ .returns value) :
    FitsMember fields parameters result (statement :: rest) ↔
      statement.FitsMember fields parameters result ∧ FitsMember fields parameters result rest := by
  -- The last statement is that of the rest: if there is none, it is no return.
  have last : (∃ value, (statement :: rest).getLast? = some (.returns value)) ↔
      ∃ value, rest.getLast? = some (.returns value) := by
    cases rest with
    | nil => simp [continues]
    | cons next rest => rw [List.getLast?_cons_cons]
  constructor
  · rintro ⟨fits, nothing, returns⟩
    obtain ⟨first, later⟩ := List.forall_mem_cons.mp fits
    exact ⟨first, later, (nothingFollowsReturn_cons_iff.mp nothing).2,
      fun valued => last.mp (returns valued)⟩
  · rintro ⟨first, later, nothing, returns⟩
    exact ⟨List.forall_mem_cons.mpr ⟨first, later⟩,
      nothingFollowsReturn_cons_iff.mpr ⟨fun value same => absurd same (continues value), nothing⟩,
      fun valued => last.mpr (returns valued)⟩

/-- The fields and the parameters that are declared are those that have types. -/
theorem Operand.isDeclared_iff {operand : Operand} :
    operand.IsDeclared fields parameters ↔ ∃ type, operand.HasType fields parameters type := by
  cases operand with
  | field name =>
      rw [IsDeclared, List.mem_map]
      constructor
      · rintro ⟨field, present, named⟩
        have found : (fields.find? fun other => other.name = name).isSome = true :=
          List.find?_isSome.mpr ⟨field, present, decide_eq_true named⟩
        obtain ⟨first, found⟩ := Option.isSome_iff_exists.mp found
        exact ⟨_, .field found⟩
      · rintro ⟨_, ⟨found⟩⟩
        obtain ⟨index, located⟩ := find?_name_eq_some_iff.mp found
        exact ⟨_, List.mem_of_find?_eq_some found, name_of_findField? located⟩
  | parameter number =>
      rw [IsDeclared, ← parameterType?_isSome_iff, Option.isSome_iff_exists]
      refine exists_congr fun type => ⟨.parameter, fun typed => ?_⟩
      cases typed with
      | parameter given => exact given
  | string text => exact ⟨fun _ => ⟨_, .string⟩, fun _ => trivial⟩
  | int number => exact ⟨fun _ => ⟨_, .int⟩, fun _ => trivial⟩

/-! ## Steps of lowering that succeed -/

/-- A step of lowering succeeds under a condition, whatever the pool holds by then. -/
def Lowering.SucceedsIff (step : Lowering Item) (condition : Prop) : Prop :=
  ∀ pool : StringPool, (∃ outcome, step pool = .ok outcome) ↔ condition

namespace Lowering

variable {Item Result : Type} {condition other : Prop}

theorem succeedsIff_pure (item : Item) : (pure item : Lowering Item).SucceedsIff True :=
  fun pool => ⟨fun _ => trivial, fun _ => ⟨(item, pool), rfl⟩⟩

/-- A text can always be added to the pool. -/
theorem succeedsIff_indexOf (text : String) : (indexOf text).SucceedsIff True :=
  fun pool => ⟨fun _ => trivial, fun _ => ⟨pool.add text, rfl⟩⟩

theorem succeedsIff_throw (fault : BuildError) :
    (throw fault : Lowering Item).SucceedsIff False :=
  fun _ => ⟨fun ⟨_, impossible⟩ => (nomatch impossible), False.elim⟩

namespace SucceedsIff

variable {step : Lowering Item} {next : Item → Lowering Result}

theorem congr (succeeds : step.SucceedsIff condition) (same : condition ↔ other) :
    step.SucceedsIff other :=
  fun pool => (succeeds pool).trans same

/-- Two steps succeed when each does, if the condition of the second one does not hang on the first. -/
theorem bind
    (first : step.SucceedsIff condition)
    (second : ∀ item, (next item).SucceedsIff other) :
    (step >>= next).SucceedsIff (condition ∧ other) := by
  intro pool
  constructor
  · rintro ⟨⟨result, later⟩, succeeded⟩
    obtain ⟨item, between, stepped, followed⟩ := Lowering.bind_eq_ok_iff.mp succeeded
    exact ⟨(first pool).mp ⟨_, stepped⟩, (second item between).mp ⟨_, followed⟩⟩
  · rintro ⟨holds, holdsToo⟩
    obtain ⟨⟨item, between⟩, stepped⟩ := (first pool).mpr holds
    obtain ⟨⟨result, later⟩, followed⟩ := (second item between).mpr holdsToo
    exact ⟨_, Lowering.bind_eq_ok_iff.mpr ⟨item, between, stepped, followed⟩⟩

/-- A last step that cannot fail leaves the condition as it is. -/
theorem bind_pure (first : step.SucceedsIff condition) (finish : Item → Result) :
    (step >>= fun item => pure (finish item)).SucceedsIff condition :=
  (first.bind fun item => succeedsIff_pure (finish item)).congr (iff_of_eq (and_true condition))

/-- Behind a guard a step has to succeed as well. -/
theorem guard
    {fault : BuildError}
    {step : Lowering Item}
    {refused : Prop}
    [Decidable refused]
    (succeeds : step.SucceedsIff condition) :
    (if refused then throw fault else step).SucceedsIff (¬ refused ∧ condition) := by
  split
  · next refuses => exact (succeedsIff_throw fault).congr (by simp [refuses])
  · next passes => exact succeeds.congr (by simp [passes])

end SucceedsIff
end Lowering

namespace MemberContext

variable (context : MemberContext)

/-- An operand is lowered to an instruction that pushes a value of its type. -/
theorem exists_lowerOperand_iff
    (operand : Operand)
    (type : ValueType)
    (pool : StringPool) :
    (∃ instruction later, context.lowerOperand operand pool = .ok ((instruction, type), later)) ↔
      operand.HasType context.fields context.parameters type := by
  constructor
  · rintro ⟨instruction, later, lowered⟩
    cases operand with
    | field name =>
        cases located : findField? context.fields name with
        | none => simp [lowerOperand, located] at lowered
        | some both =>
            rw [lowerOperand, located] at lowered
            obtain ⟨rfl, _⟩ := (Prod.mk.inj (Lowering.pure_eq_ok_iff.mp lowered).1).symm
            exact .field (find?_name_eq_some_iff.mpr ⟨_, located⟩)
    | parameter number =>
        cases given : parameterType? context.parameters number with
        | none => simp [lowerOperand, given] at lowered
        | some source =>
            rw [lowerOperand, given] at lowered
            obtain ⟨_, rfl⟩ := Prod.mk.inj (Lowering.pure_eq_ok_iff.mp lowered).1
            exact .parameter given
    | string text =>
        obtain ⟨_, _, _, lowered⟩ := Lowering.bind_eq_ok_iff.mp lowered
        obtain ⟨_, rfl⟩ := Prod.mk.inj (Lowering.pure_eq_ok_iff.mp lowered).1
        exact .string
    | int number =>
        obtain ⟨_, rfl⟩ := Prod.mk.inj (Lowering.pure_eq_ok_iff.mp lowered).1
        exact .int
  · rintro (found | given | _ | _)
    · obtain ⟨index, located⟩ := find?_name_eq_some_iff.mp found
      exact ⟨_, pool, by rw [lowerOperand, located]; rfl⟩
    · exact ⟨_, pool, by rw [lowerOperand, given]; rfl⟩
    · exact ⟨_, _, rfl⟩
    · exact ⟨_, pool, rfl⟩

theorem lowerOperand_succeedsIff (operand : Operand) :
    (context.lowerOperand operand).SucceedsIff
      (operand.IsDeclared context.fields context.parameters) := by
  intro pool
  rw [Operand.isDeclared_iff]
  constructor
  · rintro ⟨⟨⟨instruction, type⟩, later⟩, lowered⟩
    exact ⟨type, (context.exists_lowerOperand_iff operand type pool).mp ⟨_, _, lowered⟩⟩
  · rintro ⟨type, typed⟩
    obtain ⟨_, _, lowered⟩ := (context.exists_lowerOperand_iff operand type pool).mpr typed
    exact ⟨_, lowered⟩

theorem lowerOperands_succeedsIff (operands : List Operand) :
    (context.lowerOperands operands).SucceedsIff
      (∀ operand ∈ operands, operand.IsDeclared context.fields context.parameters) := by
  induction operands with
  | nil => exact (Lowering.succeedsIff_pure []).congr (by simp)
  | cons operand rest inductionHypothesis =>
      have both := (context.lowerOperand_succeedsIff operand).bind
        fun item => inductionHypothesis.bind_pure fun later => item.1 :: later
      exact both.congr List.forall_mem_cons.symm

theorem lowerAssignment_succeedsIff (name : String) (number : Nat) :
    (context.lowerAssignment name number).SucceedsIff
      ((Statement.assign name number).FitsMember context.fields context.parameters
        context.result) := by
  intro pool
  constructor
  · rintro ⟨⟨code, later⟩, lowered⟩
    obtain ⟨_, index, field, located, given, _⟩ := code_of_lowerAssignment lowered
    exact ⟨field, find?_name_eq_some_iff.mpr ⟨index, located⟩, given⟩
  · rintro ⟨field, found, given⟩
    obtain ⟨index, located⟩ := find?_name_eq_some_iff.mp found
    refine ⟨⟨[.loadParameter (UInt8.ofNat (number - 1)), .storeField (UInt16.ofNat index)], pool⟩, ?_⟩
    simp only [lowerAssignment, located, given, ne_eq, not_true_eq_false, if_false]
    rfl

theorem lowerLine_succeedsIff (operands : List Operand) :
    (context.lowerLine operands).SucceedsIff
      (operands.length ≤ 255 ∧
        ∀ operand ∈ operands, operand.IsDeclared context.fields context.parameters) := by
  rw [lowerLine]
  split
  · next empty =>
    obtain rfl := List.isEmpty_iff.mp empty
    exact ((Lowering.succeedsIff_indexOf "").bind_pure _).congr (by simp)
  · rw [← Nat.not_lt]
    apply Lowering.SucceedsIff.guard
    have pushed := (context.lowerOperands_succeedsIff operands).bind fun code =>
      show (if 1 < operands.length then
          pure (code ++ [.concatenate (UInt8.ofNat operands.length)])
        else pure code : Lowering Code).SucceedsIff True by
        split <;> exact Lowering.succeedsIff_pure _
    exact pushed.congr (iff_of_eq (and_true _))

theorem lowerPrint_succeedsIff (operands : List Operand) :
    (context.lowerPrint operands).SucceedsIff
      ((Statement.print operands).FitsMember context.fields context.parameters context.result) := by
  have named := (context.lowerLine_succeedsIff operands).bind fun line =>
    (Lowering.succeedsIff_indexOf printFunction).bind_pure fun name => line ++ [.callExternal name 1]
  exact named.congr (iff_of_eq (and_true _))

theorem lowerReturn_succeedsIff (value : Option Operand) :
    (context.lowerReturn value).SucceedsIff
      ((Statement.returns value).FitsMember context.fields context.parameters context.result) := by
  cases value with
  | none =>
      exact (Lowering.succeedsIff_pure _).guard.congr (by simp [Statement.FitsMember])
  | some operand =>
      apply Lowering.SucceedsIff.guard
      intro pool
      constructor
      · rintro ⟨⟨code, later⟩, lowered⟩
        obtain ⟨⟨instruction, type⟩, between, pushed, lowered⟩ := Lowering.bind_eq_ok_iff.mp lowered
        dsimp only at lowered
        split at lowered
        · simp at lowered
        · next same =>
          obtain rfl := not_not.mp same
          exact (context.exists_lowerOperand_iff operand _ pool).mp ⟨_, _, pushed⟩
      · intro typed
        obtain ⟨instruction, later, pushed⟩ :=
          (context.exists_lowerOperand_iff operand _ pool).mpr typed
        refine ⟨⟨[instruction, .returnValue], later⟩,
          Lowering.bind_eq_ok_iff.mpr ⟨_, _, pushed, ?_⟩⟩
        change (if context.result ≠ context.result then _ else _ : Lowering Code) later = _
        rw [if_neg (not_not.mpr rfl)]
        rfl

/-- A body is lowered when it fits its member. -/
theorem lowerBody_succeedsIff (statements : List Statement) :
    (context.lowerBody statements).SucceedsIff
      (FitsMember context.fields context.parameters context.result statements) := by
  induction statements with
  | nil =>
      refine (Lowering.succeedsIff_pure _).guard.congr ?_
      rw [fitsMember_nil_iff, and_true, not_not]
  | cons statement rest inductionHypothesis =>
      cases statement with
      | assign name number =>
          have continues : ∀ value, Statement.assign name number ≠ .returns value := nofun
          have both := (context.lowerAssignment_succeedsIff name number).bind
            fun code => inductionHypothesis.bind_pure fun later => code ++ later
          exact both.congr (fitsMember_cons_iff continues).symm
      | print operands =>
          have continues : ∀ value, Statement.print operands ≠ .returns value := nofun
          have both := (context.lowerPrint_succeedsIff operands).bind
            fun code => inductionHypothesis.bind_pure fun later => code ++ later
          exact both.congr (fitsMember_cons_iff continues).symm
      | returns value =>
          have returned := context.lowerReturn_succeedsIff value
          cases rest with
          | nil =>
              refine (returned.bind_pure fun code => code).congr ?_
              simp [fitsMember_returns_iff]
          | cons next rest =>
              refine (returned.bind fun _ => Lowering.succeedsIff_throw _).congr ?_
              simp [fitsMember_returns_iff]

end MemberContext

namespace TypeDescription

variable (description : TypeDescription)

theorem lowerConstructor_succeedsIff :
    description.lowerConstructor.SucceedsIff
      (∀ given, description.constructor = some given →
        FitsMember description.fields given.parameters .void given.body) := by
  rw [lowerConstructor]
  split
  · next undeclared =>
    exact (Lowering.succeedsIff_pure _).congr (by simp [undeclared])
  · next given declared =>
    have lowered := (description.memberContext constructorName given.parameters
      .void).lowerBody_succeedsIff given.body
    refine (lowered.bind_pure _).congr ?_
    simp [declared, memberContext]

theorem lowerMethod_succeedsIff (method : MethodDescription) :
    (description.lowerMethod method).SucceedsIff
      (∃ statements, method.statements? = some statements ∧
        FitsMember description.fields method.parameters method.result statements) := by
  have fits := (description.memberContext method.name method.parameters
    method.result).lowerBody_succeedsIff
  intro pool
  constructor
  · rintro ⟨⟨member, later⟩, lowered⟩
    obtain ⟨statements, between, lifted, lowered⟩ := Lowering.bind_eq_ok_iff.mp lowered
    obtain ⟨flattened, _⟩ := Lowering.lift_eq_ok_iff.mp lifted
    obtain ⟨code, _, body, _⟩ := Lowering.bind_eq_ok_iff.mp lowered
    exact ⟨statements, mapM_parse_of_flattenSegments flattened, (fits _ between).mp ⟨_, body⟩⟩
  · rintro ⟨statements, understood, body⟩
    obtain ⟨⟨code, later⟩, lowered⟩ := (fits statements pool).mpr body
    have flattened := flattenSegments_of_mapM_parse understood
    exact ⟨_, Lowering.bind_eq_ok_iff.mpr ⟨statements, pool,
      Lowering.lift_eq_ok_iff.mpr ⟨flattened _, rfl⟩,
      Lowering.bind_eq_ok_iff.mpr ⟨code, later, lowered, rfl⟩⟩⟩

theorem lowerMethods_succeedsIff (methods : List MethodDescription) :
    (description.lowerMethods methods).SucceedsIff
      (∀ method ∈ methods, ∃ statements, method.statements? = some statements ∧
        FitsMember description.fields method.parameters method.result statements) := by
  induction methods with
  | nil => exact (Lowering.succeedsIff_pure []).congr (by simp)
  | cons method rest inductionHypothesis =>
      have both := (description.lowerMethod_succeedsIff method).bind
        fun member => inductionHypothesis.bind_pure fun members => member :: members
      exact both.congr (by rw [List.forall_mem_cons])

end TypeDescription

namespace FrozenType

/-- A type is lowered when it has few fields and its members are lowered. -/
theorem exists_lower_iff (type : FrozenType) :
    (∃ image, type.lower = .ok image) ↔ type.IsLowerable := by
  have members := (type.description.lowerConstructor_succeedsIff.bind fun constructor =>
    (type.description.lowerMethods_succeedsIff type.description.methods).bind_pure
      fun methods => (constructor, methods)) StringPool.empty
  unfold FrozenType.lower
  constructor
  · rintro ⟨image, lowered⟩
    obtain ⟨few, lowered⟩ := Outcome.of_guard lowered
    obtain ⟨both, lowered, _⟩ := Outcome.bind_eq_ok_iff.mp lowered
    obtain ⟨constructor, methods⟩ := members.mp ⟨both, lowered⟩
    exact ⟨Nat.le_of_not_lt few, constructor, methods⟩
  · rintro ⟨few, constructor, methods⟩
    obtain ⟨both, lowered⟩ := members.mpr ⟨constructor, methods⟩
    dsimp only
    rw [if_neg (Nat.not_lt_of_le few)]
    exact ⟨_, Outcome.bind_eq_ok_iff.mpr ⟨both, lowered, rfl⟩⟩

end FrozenType

/-! ## What the check of a constructor leaves open -/

/-- A statement that a constructor can have fits a void member, but for the length of its lines. -/
theorem Statement.FitsConstructor.fitsMember
    (distinct : (fields.map Field.name).Nodup)
    (fits : statement.FitsConstructor fields parameters)
    (short : ∀ operands, statement = .print operands → operands.length ≤ 255) :
    statement.FitsMember fields parameters .void := by
  cases statement with
  | assign name number =>
      obtain ⟨field, present, rfl, given⟩ := fits
      exact ⟨field, find?_name_of_mem distinct present, given⟩
  | print operands => exact ⟨short operands rfl, fits⟩
  | returns value =>
      obtain rfl : value = none := fits
      exact rfl

/-- What fits a constructor fits a void member but for what follows returns and the length of lines. -/
theorem FitsConstructor.fitsMember_iff
    (fits : FitsConstructor fields parameters body)
    (distinct : (fields.map Field.name).Nodup) :
    FitsMember fields parameters .void body ↔
      NothingFollowsReturn body ∧ PrintsShortLines body := by
  constructor
  · intro fitsMember
    exact ⟨fitsMember.nothingFollows, fun operands present =>
      (fitsMember.statements _ present).1⟩
  · rintro ⟨nothing, short⟩
    refine ⟨?_, nothing, fun valued => absurd rfl valued⟩
    intro statement present
    apply (fits.statements statement present).fitsMember distinct
    rintro operands rfl
    exact short operands present

/--
A type is lowered exactly when it has at most 65535 fields and the bodies of its members are understood
and fit the members.  When a constructor has been set, what steps may follow until the type is complete, its
body fits exactly when nothing follows a return and no line is put together of more than 255 operands.
-/
theorem FrozenType.lower_succeeds_iff :
    (∀ type : FrozenType, (∃ image, type.lower = .ok image) ↔ type.IsLowerable) ∧
    ∀ (typeName : String) (steps : List DescriptionStep) (parameters : List ValueType) (body : Body)
      (changed : TypeDescription) (later : List DescriptionStep) (type : FrozenType),
      (TypeDescription.described typeName steps).setConstructor parameters body = .ok changed →
      (later.foldl TypeDescription.after changed).freeze = .ok type →
      ∃ statements, body.parse = .ok statements ∧
        type.description.constructor = some ⟨parameters, statements⟩ ∧
        (FitsMember type.description.fields parameters .void statements ↔
          NothingFollowsReturn statements ∧ PrintsShortLines statements) := by
  refine ⟨exists_lower_iff, ?_⟩
  intro typeName steps parameters body changed later type set frozen
  obtain ⟨statements, parsed, coherent, declared, _⟩ :=
    (TypeDescription.isCoherent_described typeName steps).exists_constructor_of_setConstructor set later
  rw [← (TypeDescription.isQualifiedName_of_freeze frozen).1] at coherent declared
  have fits := (checkConstructorBody_eq_ok_iff coherent.distinctFields).mp
    (coherent.checkedConstructor _ declared)
  exact ⟨statements, parsed, declared, fits.fitsMember_iff coherent.distinctFields⟩

/-- A body that stores its parameter, returns, and then prints an empty line. -/
def unreachableBody : List Statement :=
  [.assign "n" 1, .returns none, .print []]

/-- A type with a constructor that goes on behind a return. -/
def unreachableDescription : TypeDescription where
  name := "A"
  fields := [⟨"n", .string, .privateAccess⟩]
  constructor := some ⟨[.string], unreachableBody⟩
  methods := []
  stage := .constructor

/-- A constructor can be set although it goes on behind a return, but its type is not lowered. -/
theorem FrozenType.lower_unreachableDescription_fails :
    (TypeDescription.described "A" [.addField "n" .string .privateAccess]).setConstructor [.string]
        (.statements unreachableBody) = .ok unreachableDescription ∧
      unreachableDescription.freeze = .ok ⟨unreachableDescription⟩ ∧
      PrintsShortLines unreachableBody ∧
      ¬ NothingFollowsReturn unreachableBody ∧
      ¬ ∃ image, FrozenType.lower ⟨unreachableDescription⟩ = .ok image := by
  have set : (TypeDescription.described "A" [.addField "n" .string .privateAccess]).setConstructor
      [.string] (.statements unreachableBody) = .ok unreachableDescription := by
    decide +kernel
  have frozen : unreachableDescription.freeze = .ok ⟨unreachableDescription⟩ := by decide +kernel
  have follows : ¬ NothingFollowsReturn unreachableBody := fun nothing =>
    List.cons_ne_nil _ _ (nothing [.assign "n" 1] none [.print []] rfl)
  obtain ⟨lowers, constructors⟩ := FrozenType.lower_succeeds_iff
  obtain ⟨statements, parsed, _, fits⟩ := constructors "A" _ _ _ _ [] _ set frozen
  obtain rfl := Except.ok.inj parsed
  refine ⟨set, frozen, by simp [PrintsShortLines, unreachableBody], follows, ?_⟩
  intro lowered
  have constructor := ((lowers ⟨unreachableDescription⟩).mp lowered).constructor _ rfl
  exact follows (fits.mp constructor).1

end LateBinding
