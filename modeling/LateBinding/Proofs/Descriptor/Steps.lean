import LateBinding.Descriptor.Constructor
import LateBinding.Proofs.Outcome
import LateBinding.Proofs.Value.Field

/-!
# Descriptions step by step

A description is built by any steps in any order.  A step that is refused changes nothing, and the
others keep what holds of every description: names of fields and signatures of methods occur once, no
field is void, and no member has more than 255 parameters.
-/

namespace LateBinding

/-- A step of describing a type. -/
inductive DescriptionStep where
  | addField (name : String) (type : ValueType) (visibility : Visibility)
  | setConstructor (parameters : List ValueType) (body : Body)
  | addMethod (name : String) (result : ValueType) (parameters : List ValueType) (body : Body)
  | insertBefore (name : String) (parameters : List ValueType) (body : Body)

namespace TypeDescription

/-- The outcome of a step, which may be refused. -/
def attempt (description : TypeDescription) : DescriptionStep → Except BuildError TypeDescription
  | .addField name type visibility => description.addField name type visibility
  | .setConstructor parameters body => description.setConstructor parameters body
  | .addMethod name result parameters body => description.addMethod name result parameters body
  | .insertBefore name parameters body => description.insertBefore name parameters body

/-- The description after a step; one that is refused leaves it as it was. -/
def after (description : TypeDescription) (step : DescriptionStep) : TypeDescription :=
  match description.attempt step with
  | .ok changed => changed
  | .error _ => description

/-- The description of a name after steps. -/
def described (name : String) (steps : List DescriptionStep) : TypeDescription :=
  steps.foldl after (new name)

theorem described_append (name : String) (earlier later : List DescriptionStep) :
    described name (earlier ++ later) = later.foldl after (described name earlier) :=
  List.foldl_append

end TypeDescription

/-- The name and the parameter types of a described method. -/
def MethodDescription.key (method : MethodDescription) : String × List ValueType :=
  (method.name, method.parameters)

/-- What holds of every description that has been built step by step. -/
structure TypeDescription.IsWellFormed (description : TypeDescription) : Prop where
  /-- No two fields share a name. -/
  distinctFields : (description.fields.map Field.name).Nodup
  /-- No field is void. -/
  valuedFields : ∀ field ∈ description.fields, field.type ≠ .void
  /-- No two methods share a name and parameter types. -/
  distinctMethods : (description.methods.map MethodDescription.key).Nodup
  /-- No constructor has more than 255 parameters. -/
  narrowConstructor : ∀ given, description.constructor = some given →
    given.parameters.length ≤ 255
  /-- No method has more than 255 parameters. -/
  narrowMethods : ∀ method ∈ description.methods, method.parameters.length ≤ 255

namespace TypeDescription

theorem isWellFormed_new (name : String) : (new name).IsWellFormed where
  distinctFields := List.nodup_nil
  valuedFields _ impossible := nomatch impossible
  distinctMethods := List.nodup_nil
  narrowConstructor _ impossible := nomatch impossible
  narrowMethods _ impossible := nomatch impossible

/-! ## Insertion in front of a method -/

theorem map_key_insertInFront
    (name : String)
    (parameters : List ValueType)
    (body : Body)
    (methods : List MethodDescription) :
    (insertInFront name parameters body methods).map MethodDescription.key =
      methods.map MethodDescription.key := by
  induction methods with
  | nil => rfl
  | cons method rest inductionHypothesis =>
      rw [insertInFront]
      split
      · rfl
      · rw [List.map_cons, inductionHypothesis, List.map_cons]

/-- A method after an insertion has the parameters of a method before it. -/
theorem exists_mem_of_mem_insertInFront
    {name : String}
    {parameters : List ValueType}
    {body : Body}
    {methods : List MethodDescription}
    {method : MethodDescription}
    (present : method ∈ insertInFront name parameters body methods) :
    ∃ original ∈ methods, original.key = method.key := by
  have keyed : method.key ∈ methods.map MethodDescription.key := by
    rw [← map_key_insertInFront name parameters body methods]
    exact List.mem_map_of_mem present
  exact List.mem_map.mp keyed

/-! ## All that a step can do -/

variable {description changed : TypeDescription}

theorem requireStage_eq_ok_iff {wanted : Stage} {member : String} :
    description.requireStage wanted member = .ok () ↔
      description.stage.rank ≤ wanted.rank := by
  unfold requireStage
  split <;> simp <;> omega

theorem rank_le_fields_iff {stage : Stage} :
    stage.rank ≤ Stage.fields.rank ↔ stage = .fields := by
  cases stage <;> decide

theorem rank_le_constructor_iff {stage : Stage} :
    stage.rank ≤ Stage.constructor.rank ↔ stage ≠ .methods := by
  cases stage <;> decide

theorem requireIdentifier_eq_ok_iff {name : String} :
    requireIdentifier name = .ok () ↔ isIdentifier name.toList = true := by
  unfold requireIdentifier
  split <;> simp_all

theorem requireParameters_eq_ok_iff {member : String} {parameters : List ValueType} :
    requireParameters member parameters = .ok () ↔
      .void ∉ parameters ∧ parameters.length ≤ 255 := by
  unfold requireParameters
  split
  · simp_all
  · split <;> simp_all

/-- A field is added in the first stage only, under a new name. -/
theorem of_addField
    {name : String}
    {type : ValueType}
    {visibility : Visibility}
    (added : description.addField name type visibility = .ok changed) :
    description.stage = .fields ∧
      isIdentifier name.toList = true ∧
      name ∉ description.fields.map Field.name ∧
      type ≠ .void ∧
      changed = { description with fields := description.fields ++ [⟨name, type, visibility⟩] } := by
  obtain ⟨_, early, added⟩ := Outcome.bind_eq_ok_iff.mp added
  obtain ⟨_, named, added⟩ := Outcome.bind_eq_ok_iff.mp added
  dsimp only at added
  split at added
  · nomatch added
  next new =>
  split at added
  · nomatch added
  next valued =>
  exact ⟨rank_le_fields_iff.mp (requireStage_eq_ok_iff.mp early),
    requireIdentifier_eq_ok_iff.mp named, fun declared => new (fieldIndex?_isSome_iff.mpr declared),
    valued, (Except.ok.inj added).symm⟩

/-- A constructor is set where there is none, before the methods, with a body that passes. -/
theorem setConstructor_eq_ok_iff
    {parameters : List ValueType}
    {body : Body} :
    description.setConstructor parameters body = .ok changed ↔
      description.constructor = none ∧
        description.stage ≠ .methods ∧
        .void ∉ parameters ∧ parameters.length ≤ 255 ∧
        ∃ statements, body.parse = .ok statements ∧
          checkConstructorBody description.fields parameters statements = .ok () ∧
          changed = { description with
            constructor := some ⟨parameters, statements⟩
            stage := .constructor } := by
  unfold TypeDescription.setConstructor
  constructor
  · intro set
    split at set
    · nomatch set
    next free =>
    obtain ⟨_, early, set⟩ := Outcome.bind_eq_ok_iff.mp set
    obtain ⟨_, required, set⟩ := Outcome.bind_eq_ok_iff.mp set
    obtain ⟨statements, parsed, set⟩ := Outcome.bind_eq_ok_iff.mp set
    obtain ⟨_, checked, set⟩ := Outcome.bind_eq_ok_iff.mp set
    obtain ⟨valued, few⟩ := requireParameters_eq_ok_iff.mp required
    exact ⟨Option.not_isSome_iff_eq_none.mp free,
      rank_le_constructor_iff.mp (requireStage_eq_ok_iff.mp early), valued, few, statements,
      Outcome.mapError_eq_ok_iff.mp parsed, Outcome.mapError_eq_ok_iff.mp checked,
      (Except.ok.inj set).symm⟩
  · rintro ⟨free, early, valued, few, statements, parsed, checked, rfl⟩
    rw [if_neg (Option.not_isSome_iff_eq_none.mpr free)]
    refine Outcome.bind_eq_ok_iff.mpr
      ⟨(), requireStage_eq_ok_iff.mpr (rank_le_constructor_iff.mpr early), ?_⟩
    refine Outcome.bind_eq_ok_iff.mpr ⟨(), requireParameters_eq_ok_iff.mpr ⟨valued, few⟩, ?_⟩
    refine Outcome.bind_eq_ok_iff.mpr ⟨statements, Outcome.mapError_eq_ok_iff.mpr parsed, ?_⟩
    exact Outcome.bind_eq_ok_iff.mpr ⟨(), Outcome.mapError_eq_ok_iff.mpr checked, rfl⟩

/-- A method is added at the end, with a new signature. -/
theorem of_addMethod
    {name : String}
    {result : ValueType}
    {parameters : List ValueType}
    {body : Body}
    (added : description.addMethod name result parameters body = .ok changed) :
    isIdentifier name.toList = true ∧
      (name, parameters) ∉ description.methods.map MethodDescription.key ∧
      .void ∉ parameters ∧ parameters.length ≤ 255 ∧
      changed = { description with
        methods := description.methods ++ [⟨name, result, parameters, [body]⟩]
        stage := .methods } := by
  obtain ⟨_, _, added⟩ := Outcome.bind_eq_ok_iff.mp added
  obtain ⟨_, named, added⟩ := Outcome.bind_eq_ok_iff.mp added
  split at added
  · nomatch added
  next new =>
  obtain ⟨_, required, added⟩ := Outcome.bind_eq_ok_iff.mp added
  obtain ⟨valued, few⟩ := requireParameters_eq_ok_iff.mp required
  refine ⟨requireIdentifier_eq_ok_iff.mp named, ?_, valued, few, (Except.ok.inj added).symm⟩
  intro declared
  obtain ⟨method, among, keyed⟩ := List.mem_map.mp declared
  obtain ⟨sameName, sameParameters⟩ := Prod.mk.inj keyed
  apply new
  rw [findMethod?, List.find?_isSome]
  exact ⟨method, among, by simp [MethodDescription.hasSignature, sameName, sameParameters]⟩

theorem of_insertBefore
    {name : String}
    {parameters : List ValueType}
    {body : Body}
    (inserted : description.insertBefore name parameters body = .ok changed) :
    changed = { description with
      methods := insertInFront name parameters body description.methods } := by
  unfold TypeDescription.insertBefore at inserted
  split at inserted
  · exact (Except.ok.inj inserted).symm
  · nomatch inserted

/-! ## Every step -/

theorem IsWellFormed.addField
    (wellFormed : description.IsWellFormed)
    {name : String}
    {type : ValueType}
    {visibility : Visibility}
    (added : description.addField name type visibility = .ok changed) :
    changed.IsWellFormed := by
  obtain ⟨_, _, new, valued, rfl⟩ := of_addField added
  refine ⟨?_, ?_, wellFormed.distinctMethods, wellFormed.narrowConstructor,
    wellFormed.narrowMethods⟩
  · exact nodup_map_append_singleton wellFormed.distinctFields new
  · intro field present
    rcases List.mem_append.mp present with before | last
    · exact wellFormed.valuedFields field before
    · obtain rfl := List.mem_singleton.mp last
      exact valued

theorem IsWellFormed.setConstructor
    (wellFormed : description.IsWellFormed)
    {parameters : List ValueType}
    {body : Body}
    (set : description.setConstructor parameters body = .ok changed) :
    changed.IsWellFormed := by
  obtain ⟨_, _, _, few, statements, _, _, rfl⟩ := setConstructor_eq_ok_iff.mp set
  refine ⟨wellFormed.distinctFields, wellFormed.valuedFields, wellFormed.distinctMethods, ?_,
    wellFormed.narrowMethods⟩
  intro given same
  obtain rfl := Option.some.inj same
  exact few

theorem IsWellFormed.addMethod
    (wellFormed : description.IsWellFormed)
    {name : String}
    {result : ValueType}
    {parameters : List ValueType}
    {body : Body}
    (added : description.addMethod name result parameters body = .ok changed) :
    changed.IsWellFormed := by
  obtain ⟨_, new, _, few, rfl⟩ := of_addMethod added
  refine ⟨wellFormed.distinctFields, wellFormed.valuedFields, ?_, wellFormed.narrowConstructor, ?_⟩
  · exact nodup_map_append_singleton wellFormed.distinctMethods new
  · intro method present
    rcases List.mem_append.mp present with before | last
    · exact wellFormed.narrowMethods method before
    · obtain rfl := List.mem_singleton.mp last
      exact few

theorem IsWellFormed.insertBefore
    (wellFormed : description.IsWellFormed)
    {name : String}
    {parameters : List ValueType}
    {body : Body}
    (inserted : description.insertBefore name parameters body = .ok changed) :
    changed.IsWellFormed := by
  obtain rfl := of_insertBefore inserted
  refine ⟨wellFormed.distinctFields, wellFormed.valuedFields, ?_, wellFormed.narrowConstructor, ?_⟩
  · rw [map_key_insertInFront]
    exact wellFormed.distinctMethods
  · intro method present
    obtain ⟨original, among, sameKey⟩ := exists_mem_of_mem_insertInFront present
    rw [← (Prod.mk.inj sameKey).2]
    exact wellFormed.narrowMethods original among

theorem IsWellFormed.after
    (wellFormed : description.IsWellFormed)
    (step : DescriptionStep) :
    (description.after step).IsWellFormed := by
  unfold TypeDescription.after
  split
  · next changed attempted =>
    cases step with
    | addField name type visibility => exact wellFormed.addField attempted
    | setConstructor parameters body => exact wellFormed.setConstructor attempted
    | addMethod name result parameters body => exact wellFormed.addMethod attempted
    | insertBefore name parameters body => exact wellFormed.insertBefore attempted
  · exact wellFormed

/-- Every description is well-formed after any steps. -/
theorem isWellFormed_described (name : String) (steps : List DescriptionStep) :
    (described name steps).IsWellFormed := by
  apply List.foldlRecOn steps TypeDescription.after (isWellFormed_new name)
  intro description wellFormed step _
  exact wellFormed.after step

/-- A step that reaches or keeps the last stage leaves a method behind. -/
theorem methods_ne_nil_after
    (some : description.stage = .methods → description.methods ≠ [])
    (step : DescriptionStep)
    (last : (description.after step).stage = .methods) :
    (description.after step).methods ≠ [] := by
  unfold TypeDescription.after at last ⊢
  split at last
  · next changed attempted =>
    cases step with
    | addField name type visibility =>
        obtain ⟨_, _, _, _, rfl⟩ := of_addField attempted
        exact some last
    | setConstructor parameters body =>
        obtain ⟨_, _, _, _, _, _, _, rfl⟩ := setConstructor_eq_ok_iff.mp attempted
        nomatch last
    | addMethod name result parameters body =>
        obtain ⟨_, _, _, _, rfl⟩ := of_addMethod attempted
        exact List.append_ne_nil_of_right_ne_nil _ (List.cons_ne_nil _ _)
    | insertBefore name parameters body =>
        obtain rfl := of_insertBefore attempted
        intro (none : insertInFront name parameters body description.methods = [])
        have keys := map_key_insertInFront name parameters body description.methods
        rw [none] at keys
        exact some last (List.map_eq_nil_iff.mp keys.symm)
  · exact some last

/-- A description in its last stage has a method. -/
theorem methods_ne_nil_of_stage
    (name : String)
    (steps : List DescriptionStep) :
    (described name steps).stage = .methods → (described name steps).methods ≠ [] := by
  apply List.foldlRecOn steps TypeDescription.after
    (motive := fun description => description.stage = .methods → description.methods ≠ [])
  · intro impossible
    nomatch impossible
  · intro description some step _
    exact methods_ne_nil_after some step

end TypeDescription
end LateBinding
