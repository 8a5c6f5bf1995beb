import LateBinding.Proofs.Descriptor.InPlace

/-!
# Descriptions stay coherent

Whatever steps are taken in whatever order, the parts of a description fit each other.  The stage
tells which parts can still change: a step that finds its stage passed is refused, so what a later
part relies on is never touched again.
-/

namespace LateBinding
namespace TypeDescription

variable {description changed early middle late : TypeDescription}

/-- A description in which every part fits the others. -/
structure IsCoherent (description : TypeDescription) : Prop extends
    description.IsWellFormed where
  /-- The names of fields are identifiers. -/
  namedFields : ∀ field ∈ description.fields, isIdentifier field.name.toList = true
  /-- The names of methods are identifiers. -/
  namedMethods : ∀ method ∈ description.methods, isIdentifier method.name.toList = true
  /-- No parameter of a method is void. -/
  valuedMethods : ∀ method ∈ description.methods, .void ∉ method.parameters
  /-- No parameter of a constructor is void. -/
  valuedConstructor : ∀ given, description.constructor = some given → .void ∉ given.parameters
  /-- The body of the constructor passes the check against the fields that there are. -/
  checkedConstructor : ∀ given, description.constructor = some given →
    checkConstructorBody description.fields given.parameters given.body = .ok ()
  /-- There is no constructor while fields can be added. -/
  noConstructor : description.stage = .fields → description.constructor = none
  /-- There are no methods while fields or the constructor can be added. -/
  noMethods : description.stage ≠ .methods → description.methods = []

theorem isCoherent_new (name : String) : (new name).IsCoherent where
  toIsWellFormed := isWellFormed_new name
  namedFields _ impossible := nomatch impossible
  namedMethods _ impossible := nomatch impossible
  valuedMethods _ impossible := nomatch impossible
  valuedConstructor _ impossible := nomatch impossible
  checkedConstructor _ impossible := nomatch impossible
  noConstructor _ := rfl
  noMethods _ := rfl

/-! ## Every step keeps a description coherent -/

namespace IsCoherent

theorem addField
    (coherent : description.IsCoherent)
    {name : String}
    {type : ValueType}
    {visibility : Visibility}
    (added : description.addField name type visibility = .ok changed) :
    changed.IsCoherent := by
  have wellFormed := coherent.toIsWellFormed.addField added
  obtain ⟨first, named, _, _, rfl⟩ := of_addField added
  -- The check of a constructor's body would be one against fewer fields, but there is none yet.
  have free : ∀ given, description.constructor ≠ some given := by
    rw [coherent.noConstructor first]
    exact nofun
  exact
    { toIsWellFormed := wellFormed
      namedFields := by
        intro field present
        rcases List.mem_append.mp present with before | last
        · exact coherent.namedFields field before
        · obtain rfl := List.mem_singleton.mp last
          exact named
      namedMethods := coherent.namedMethods
      valuedMethods := coherent.valuedMethods
      valuedConstructor := coherent.valuedConstructor
      checkedConstructor := fun given same => absurd same (free given)
      noConstructor := coherent.noConstructor
      noMethods := coherent.noMethods }

theorem setConstructor
    (coherent : description.IsCoherent)
    {parameters : List ValueType}
    {body : Body}
    (set : description.setConstructor parameters body = .ok changed) :
    changed.IsCoherent := by
  have wellFormed := coherent.toIsWellFormed.setConstructor set
  obtain ⟨_, early, valued, _, statements, _, checked, rfl⟩ := setConstructor_eq_ok_iff.mp set
  exact
    { toIsWellFormed := wellFormed
      namedFields := coherent.namedFields
      namedMethods := coherent.namedMethods
      valuedMethods := coherent.valuedMethods
      valuedConstructor := by
        intro given same
        obtain rfl := Option.some.inj same
        exact valued
      checkedConstructor := by
        intro given same
        obtain rfl := Option.some.inj same
        exact checked
      noConstructor := nofun
      noMethods := fun _ => coherent.noMethods early }

theorem addMethod
    (coherent : description.IsCoherent)
    {name : String}
    {result : ValueType}
    {parameters : List ValueType}
    {body : Body}
    (added : description.addMethod name result parameters body = .ok changed) :
    changed.IsCoherent := by
  have wellFormed := coherent.toIsWellFormed.addMethod added
  obtain ⟨named, _, valued, _, rfl⟩ := of_addMethod added
  exact
    { toIsWellFormed := wellFormed
      namedFields := coherent.namedFields
      namedMethods := by
        intro method present
        rcases List.mem_append.mp present with before | last
        · exact coherent.namedMethods method before
        · obtain rfl := List.mem_singleton.mp last
          exact named
      valuedMethods := by
        intro method present
        rcases List.mem_append.mp present with before | last
        · exact coherent.valuedMethods method before
        · obtain rfl := List.mem_singleton.mp last
          exact valued
      valuedConstructor := coherent.valuedConstructor
      checkedConstructor := coherent.checkedConstructor
      noConstructor := nofun
      noMethods := fun unfinished => absurd rfl unfinished }

theorem insertBefore
    (coherent : description.IsCoherent)
    {name : String}
    {parameters : List ValueType}
    {body : Body}
    (inserted : description.insertBefore name parameters body = .ok changed) :
    changed.IsCoherent := by
  have wellFormed := coherent.toIsWellFormed.insertBefore inserted
  obtain rfl := of_insertBefore inserted
  exact
    { toIsWellFormed := wellFormed
      namedFields := coherent.namedFields
      namedMethods := by
        intro method present
        obtain ⟨original, among, sameKey⟩ := exists_mem_of_mem_insertInFront present
        rw [← (Prod.mk.inj sameKey).1]
        exact coherent.namedMethods original among
      valuedMethods := by
        intro method present
        obtain ⟨original, among, sameKey⟩ := exists_mem_of_mem_insertInFront present
        rw [← (Prod.mk.inj sameKey).2]
        exact coherent.valuedMethods original among
      valuedConstructor := coherent.valuedConstructor
      checkedConstructor := coherent.checkedConstructor
      noConstructor := coherent.noConstructor
      noMethods := by
        intro unfinished
        rw [coherent.noMethods unfinished]
        rfl }

theorem after (coherent : description.IsCoherent) (step : DescriptionStep) :
    (description.after step).IsCoherent := by
  unfold TypeDescription.after
  split
  · next changed attempted =>
    cases step with
    | addField name type visibility => exact coherent.addField attempted
    | setConstructor parameters body => exact coherent.setConstructor attempted
    | addMethod name result parameters body => exact coherent.addMethod attempted
    | insertBefore name parameters body => exact coherent.insertBefore attempted
  · exact coherent

end IsCoherent

theorem isCoherent_described (name : String) (steps : List DescriptionStep) :
    (described name steps).IsCoherent := by
  apply List.foldlRecOn steps TypeDescription.after (isCoherent_new name)
  intro description coherent step _
  exact coherent.after step

/-! ## What later steps leave alone -/

/-- A description that can have come from another one by further steps. -/
structure IsContinuedBy (early late : TypeDescription) : Prop where
  /-- The fields are still there, and further ones behind them. -/
  fields : early.fields <+: late.fields
  /-- A constructor stays as it is. -/
  constructor : ∀ given, early.constructor = some given → late.constructor = some given
  /-- The methods are still there with their parameters, and further ones behind them. -/
  methods : early.methods.map MethodDescription.key <+: late.methods.map MethodDescription.key
  /-- No field is added after the constructor or a method. -/
  fieldsComplete : early.constructor.isSome ∨ early.methods ≠ [] → late.fields = early.fields
  /-- No constructor is set after a method. -/
  constructorComplete : early.methods ≠ [] → late.constructor = early.constructor

namespace IsContinuedBy

theorem refl (description : TypeDescription) : description.IsContinuedBy description where
  fields := List.prefix_rfl
  constructor _ same := same
  methods := List.prefix_rfl
  fieldsComplete _ := rfl
  constructorComplete _ := rfl

/-- Where there are methods there stay methods. -/
theorem methods_ne_nil (continued : early.IsContinuedBy late) (some : early.methods ≠ []) :
    late.methods ≠ [] := by
  intro none
  have keys := continued.methods
  rw [none, List.map_nil, List.prefix_nil, List.map_eq_nil_iff] at keys
  exact some keys

/-- What is complete stays complete, since a constructor and methods are never taken away. -/
theorem trans (first : early.IsContinuedBy middle) (second : middle.IsContinuedBy late) :
    early.IsContinuedBy late where
  fields := first.fields.trans second.fields
  constructor given same := second.constructor given (first.constructor given same)
  methods := first.methods.trans second.methods
  fieldsComplete complete := by
    have stillComplete : middle.constructor.isSome ∨ middle.methods ≠ [] := by
      refine complete.imp (fun given => ?_) first.methods_ne_nil
      obtain ⟨constructor, same⟩ := Option.isSome_iff_exists.mp given
      rw [first.constructor constructor same]
      rfl
    rw [second.fieldsComplete stillComplete, first.fieldsComplete complete]
  constructorComplete some := by
    rw [second.constructorComplete (first.methods_ne_nil some), first.constructorComplete some]

end IsContinuedBy

namespace IsCoherent

theorem isContinuedBy_addField
    (coherent : description.IsCoherent)
    {name : String}
    {type : ValueType}
    {visibility : Visibility}
    (added : description.addField name type visibility = .ok changed) :
    description.IsContinuedBy changed := by
  obtain ⟨first, _, _, _, rfl⟩ := of_addField added
  have noConstructor := coherent.noConstructor first
  have noMethods := coherent.noMethods (by rw [first]; decide)
  exact
    { fields := List.prefix_append ..
      constructor := fun _ same => same
      methods := List.prefix_rfl
      fieldsComplete := by simp [noConstructor, noMethods]
      constructorComplete := fun _ => rfl }

theorem isContinuedBy_setConstructor
    (coherent : description.IsCoherent)
    {parameters : List ValueType}
    {body : Body}
    (set : description.setConstructor parameters body = .ok changed) :
    description.IsContinuedBy changed := by
  obtain ⟨free, early, _, _, statements, _, _, rfl⟩ := setConstructor_eq_ok_iff.mp set
  have noMethods := coherent.noMethods early
  exact
    { fields := List.prefix_rfl
      constructor := by simp [free]
      methods := List.prefix_rfl
      fieldsComplete := fun _ => rfl
      constructorComplete := fun some => absurd noMethods some }

theorem isContinuedBy_after (coherent : description.IsCoherent) (step : DescriptionStep) :
    description.IsContinuedBy (description.after step) := by
  unfold TypeDescription.after
  split
  · next changed attempted =>
    cases step with
    | addField name type visibility => exact coherent.isContinuedBy_addField attempted
    | setConstructor parameters body => exact coherent.isContinuedBy_setConstructor attempted
    | addMethod name result parameters body =>
        obtain ⟨_, _, _, _, rfl⟩ := of_addMethod attempted
        refine ⟨List.prefix_rfl, fun _ same => same, ?_, fun _ => rfl, fun _ => rfl⟩
        rw [List.map_append]
        exact List.prefix_append ..
    | insertBefore name parameters body =>
        obtain rfl := of_insertBefore attempted
        refine ⟨List.prefix_rfl, fun _ same => same, ?_, fun _ => rfl, fun _ => rfl⟩
        simp [map_key_insertInFront]
  · exact .refl description

theorem isContinuedBy_foldl
    (coherent : description.IsCoherent)
    (steps : List DescriptionStep) :
    description.IsContinuedBy (steps.foldl TypeDescription.after description) := by
  induction steps generalizing description with
  | nil => exact .refl description
  | cons step rest inductionHypothesis =>
      exact (coherent.isContinuedBy_after step).trans (inductionHypothesis (coherent.after step))

/-- A constructor that has been set is still there after further steps, and so are the fields. -/
theorem exists_constructor_of_setConstructor
    (coherent : description.IsCoherent)
    {parameters : List ValueType}
    {body : Body}
    (set : description.setConstructor parameters body = .ok changed)
    (later : List DescriptionStep) :
    ∃ statements, body.parse = .ok statements ∧
      (later.foldl TypeDescription.after changed).IsCoherent ∧
      (later.foldl TypeDescription.after changed).constructor = some ⟨parameters, statements⟩ ∧
      (later.foldl TypeDescription.after changed).fields = description.fields := by
  have coherentChanged := coherent.setConstructor set
  have coherentLater : (later.foldl TypeDescription.after changed).IsCoherent :=
    List.foldlRecOn later TypeDescription.after coherentChanged
      fun _ coherent step _ => coherent.after step
  have continued := coherentChanged.isContinuedBy_foldl later
  obtain ⟨_, _, _, _, statements, parsed, _, rfl⟩ := setConstructor_eq_ok_iff.mp set
  exact ⟨statements, parsed, coherentLater, continued.constructor _ rfl,
    continued.fieldsComplete (.inl rfl)⟩

end IsCoherent

/--
After every step, whichever steps have been taken, the description is coherent and goes on from what
it was, and so do all further steps from it.  A step that is refused has left every part as it was.
-/
theorem edited_isCoherent
    {name : String}
    {earlier : List DescriptionStep}
    {step : DescriptionStep}
    {result : Except BuildError Unit}
    {after : TypeDescription}
    (taken : (Edit.step step).on (edited name earlier) = (result, after))
    (later : List DescriptionStep) :
    after = described name (earlier ++ [step]) ∧
      result = ((described name earlier).attempt step).map (fun _ => ()) ∧
      after.IsCoherent ∧
      (edited name earlier).IsContinuedBy after ∧
      after.IsContinuedBy (edited name (earlier ++ step :: later)) ∧
      ∀ fault, result = .error fault → after = edited name earlier := by
  rw [edited_eq_described, Edit.on_step] at taken
  obtain ⟨rfl, rfl⟩ := Prod.mk.inj taken
  have coherent := isCoherent_described name earlier
  have keptCoherent := coherent.after step
  rw [edited_eq_described, edited_eq_described]
  refine ⟨?_, rfl, keptCoherent, coherent.isContinuedBy_after step, ?_, ?_⟩
  · rw [described_append]
    rfl
  · rw [described_append]
    exact keptCoherent.isContinuedBy_foldl later
  · intro fault refused
    unfold TypeDescription.after
    split
    · next changed attempted =>
      rw [attempted] at refused
      nomatch refused
    · rfl

/-- A field and a constructor that stores its parameter there. -/
def fieldSteps : List DescriptionStep :=
  [.addField "n" .string .privateAccess, .setConstructor [.string] (.statements [.assign "n" 1])]

/-- A field that comes after the constructor is refused, and a method goes on from there. -/
theorem edited_fieldSteps_isCoherent :
    ∃ fault after,
      (Edit.step (.addField "m" .int .privateAccess)).on (edited "A" fieldSteps) =
        (.error fault, after) ∧
      after.constructor.isSome = true ∧
      after.IsCoherent ∧
      after = edited "A" fieldSteps ∧
      (edited "A" (fieldSteps ++ [.addField "m" .int .privateAccess,
        .addMethod "f" .void [] (.statements [])])).fields = [⟨"n", .string, .privateAccess⟩] := by
  have built : edited "A" fieldSteps =
      ⟨"A", [⟨"n", .string, .privateAccess⟩], some ⟨[.string], [.assign "n" 1]⟩, [],
        .constructor⟩ := by
    decide +kernel
  have refused : (Edit.step (.addField "m" .int .privateAccess)).on (edited "A" fieldSteps) =
      (.error (.outOfOrder "A" "field 'm'" "the constructor"), edited "A" fieldSteps) := by
    rw [built]
    decide +kernel
  obtain ⟨_, _, coherent, _, continued, unchanged⟩ :=
    edited_isCoherent refused [.addMethod "f" .void [] (.statements [])]
  refine ⟨_, _, refused, by rw [built]; rfl, coherent, unchanged _ rfl, ?_⟩
  have complete : (edited "A" fieldSteps).constructor.isSome = true := by rw [built]; rfl
  rw [continued.fieldsComplete (.inl complete), built]

end TypeDescription
end LateBinding
