import LateBinding.Proofs.Calling.Session
import LateBinding.Proofs.Descriptor.Coherence
import LateBinding.Proofs.Descriptor.ConstructorCheck
import LateBinding.Proofs.Descriptor.Repetition
import LateBinding.Proofs.Pipeline

/-!
# What constructors do with their arguments

A body is set as the constructor exactly when it fits.  When the type has been lowered and loaded, the
construction of an object stores each argument in the field that its parameter initializes, and leaves the
other fields as they are at first, whatever is printed in between.
-/

namespace LateBinding

/-- Fields hold the arguments that initialize them, and the other fields their initial values. -/
structure HoldsArguments
    (fields : List Field)
    (body : List Statement)
    (arguments values : List Value) : Prop where
  length : values.length = fields.length
  initialized : ∀ number index, Initializes fields body number index →
    ∃ value, argument? arguments number = some value ∧ values[index]? = some value
  others : ∀ index field, fields[index]? = some field →
    (∀ number, ¬ Initializes fields body number index) →
      values[index]? = some (Value.initial field.type)

/-- Objects of an open type can be constructed of all arguments that parameters accept, and hold them. -/
def LoadedType.Constructs
    (type : LoadedType)
    (parameters : List ValueType)
    (fields : List Field)
    (body : List Statement) : Prop :=
  ∀ (world : World) (arguments : List Value), world.isOpen type.loader = true →
    Accepting type.loader parameters arguments →
      ∃ reference after values, world.construct type arguments = (.ok reference, after) ∧
        after.object? reference = some ⟨type, values⟩ ∧
        HoldsArguments fields body arguments values

variable {body : List Statement} {arguments : List Value}

/-! ## What the statements of a constructor store -/

section Statements

variable {context : MemberContext} {strings : StringPool} {code : Code} {name : String} {number : Nat}

/-- All assignments of a body that has code are carried out, since nothing follows a return. -/
theorem BodyCode.assignedFields_eq (has : BodyCode context strings body code) :
    assignedFields body = (assignments body).map Prod.fst := by
  induction has with
  | assign _ _ _ inductionHypothesis =>
      rw [assignedFields, assignments, List.map_cons, inductionHypothesis]
  | print _ _ _ inductionHypothesis => exact inductionHypothesis
  | _ => rfl

/-- A field that is assigned once gets the argument of its parameter. -/
theorem BodyCode.assignedValue?_eq
    (has : BodyCode context strings body code)
    (once : ((assignments body).map Prod.fst).Nodup)
    (present : (name, number) ∈ assignments body)
    (arguments : List Value) :
    assignedValue? arguments name body = argument? arguments number := by
  induction has with
  | @assign other otherNumber _ _ rest _ _ _ has inductionHypothesis =>
      rw [assignments, List.map_cons, List.nodup_cons] at once
      rw [assignedValue?]
      rcases List.mem_cons.mp present with same | later
      · obtain ⟨rfl, rfl⟩ := Prod.mk.inj same
        rw [assignedValue?_eq_none (has.assignedFields_eq ▸ once.1), if_pos rfl, Option.none_or]
      · have different : name ≠ other := by
          rintro rfl
          exact once.1 (List.mem_map.mpr ⟨_, later, rfl⟩)
        rw [inductionHypothesis once.2 later, if_neg different, Option.or_none]
  | print _ _ _ inductionHypothesis => exact inductionHypothesis once present
  | _ => exact absurd present List.not_mem_nil

end Statements

/-- Each parameter has an argument when there are as many. -/
theorem exists_argument?
    {parameters : List ValueType}
    (asMany : arguments.length = parameters.length)
    {number : Nat}
    {type : ValueType}
    (declared : parameterType? parameters number = some type) :
    ∃ value, argument? arguments number = some value := by
  obtain ⟨positive, inside⟩ := parameterType?_isSome_iff.mp (Option.isSome_of_eq_some declared)
  have bound : number - 1 < arguments.length := by omega
  exact ⟨arguments[number - 1],
    by rw [argument?, if_neg (Nat.ne_of_gt positive), List.getElem?_eq_getElem bound]⟩

/-- The fields that a constructor leaves hold its arguments. -/
theorem holdsArguments_of_effect?
    {fields : List Field}
    {parameters : List ValueType}
    {context : MemberContext}
    {strings : StringPool}
    {code : Code}
    {effect : Effect}
    {values : List Value}
    (distinct : (fields.map Field.name).Nodup)
    (fits : FitsConstructor fields parameters body)
    (has : BodyCode context strings body code)
    (asMany : arguments.length = parameters.length)
    (meaning : effect? arguments (.initial fields) body = some effect)
    (agrees : effect.store.Agrees fields values) :
    HoldsArguments fields body arguments values := by
  -- Each field holds what the body assigns to it, or else its initial value.
  have stored : ∀ (index : Nat) (field : Field), fields[index]? = some field →
      values[index]? = (assignedValue? arguments field.name body).or
        (some (Value.initial field.type)) := by
    intro index field there
    obtain ⟨value, held, known⟩ := agrees.value
      (findField?_eq_some_iff.mpr ⟨fieldIndex?_of_getElem? distinct there, there⟩)
    rw [store_of_effect? meaning, FieldStore.initial,
      find?_name_of_mem distinct (List.mem_of_getElem? there), Option.map_some] at known
    rw [held, known]
  refine ⟨agrees.length, ?_, ?_⟩
  · rintro number index ⟨field, there, assigned⟩
    obtain ⟨_, _, _, declared⟩ := fits.statements _ assigned
    obtain ⟨value, given⟩ := exists_argument? asMany declared
    refine ⟨value, given, ?_⟩
    rw [stored index field there, has.assignedValue?_eq fits.fieldsOnce
      (mem_assignments_iff.mpr assigned), given, Option.some_or]
  · intro index field there uninitialized
    have unassigned : field.name ∉ assignedFields body := by
      rw [has.assignedFields_eq]
      intro present
      obtain ⟨⟨_, number⟩, assigned, rfl⟩ := List.mem_map.mp present
      exact uninitialized number ⟨field, there, mem_assignments_iff.mp assigned⟩
    rw [stored index field there, assignedValue?_eq_none unassigned, Option.none_or]

/-! ## Objects of loaded types -/

namespace FrozenType

variable {type : FrozenType}

/-- The module of a well-formed type is accepted, and what is read implements the description. -/
theorem exists_readModule
    {module : PackedModule}
    (wellFormed : type.description.IsWellFormed)
    (generated : type.generate = .ok module)
    (short : module.bytes.length < 2 ^ 32) :
    ∃ image table,
      World.readModule type.description.name module.bytes = .ok (image, table) ∧
        image.Implements type.description := by
  obtain ⟨lowered, lowers, rfl⟩ := Outcome.map_eq_ok_iff.mp generated
  -- What is read is the closure of the lowered image: its pool has the names of all parts as well.
  obtain ⟨decoded, implements⟩ := FrozenType.decode_of_lower lowers wellFormed short
  have distinct : (lowered.closure.methods.map Member.key).Nodup := by
    rw [implements.map_key]
    exact wellFormed.distinctMethods
  obtain ⟨table, accepted⟩ :=
    World.exists_readModule decoded (implements.isBound wellFormed) distinct
  rw [implements.name] at accepted
  exact ⟨lowered.closure, table, accepted, implements⟩

/-- A loaded image of a described type constructs objects as the body of its constructor says. -/
theorem constructs_of_implements
    {loaded : LoadedType}
    (implements : loaded.image.Implements type.description)
    (wellFormed : type.description.IsWellFormed)
    {parameters : List ValueType}
    (declared : type.description.constructor = some ⟨parameters, body⟩)
    (fits : FitsConstructor type.description.fields parameters body) :
    loaded.Constructs parameters type.description.fields body := by
  have sameParameters : type.description.constructorParameters = parameters := by
    rw [TypeDescription.constructorParameters, declared]
    rfl
  have sameBody : type.description.constructorBody = body := by
    rw [TypeDescription.constructorBody, declared]
    rfl
  intro world arguments opened accepting
  obtain ⟨asMany, accepts⟩ := accepting_iff.mp accepting
  obtain ⟨effect, reference, after, meaning, constructs, _, has⟩ :=
    World.construct_of_accepts implements wellFormed opened
      ⟨asMany.symm.trans (congrArg List.length sameParameters.symm), sameParameters ▸ accepts⟩
  obtain ⟨values, found, agrees⟩ := has.there
  rw [implements.fields] at agrees
  rw [sameBody] at meaning
  have code := implements.constructor.code
  rw [sameBody] at code
  exact ⟨reference, after, values, constructs, found,
    holdsArguments_of_effect? wellFormed.distinctFields fits code asMany.symm meaning agrees⟩

end FrozenType

namespace World

/-- A file that a loader has to read and accepts is loaded. -/
theorem exists_load_of_unread
    {world : World}
    {read : String → Except FileError Bytes}
    {id : LoaderId}
    {name path : String}
    (requested : world.request id name = .ok (.unread path))
    {content : Bytes}
    (readable : read path = .ok content)
    {image : ModuleImage}
    {table : MethodTable}
    (accepted : readModule name content = .ok (image, table)) :
    ∃ ready, world.load read id name =
      (.ok ⟨world.typeCount, id, path, image, table⟩, ready) := by
  refine ⟨(world.addType id path image table).2, ?_⟩
  rw [← addType_fst]
  simp only [load, requested, loadFrom, readable, accepted]

end World

namespace TypeDescription

/-- A body can be set as the constructor when it fits, as long as there is none and no method. -/
theorem exists_setConstructor_iff
    {typeName : String}
    {steps : List DescriptionStep}
    (noConstructor : (described typeName steps).constructor = none)
    (noMethods : (described typeName steps).methods = [])
    {parameters : List ValueType}
    (valued : .void ∉ parameters)
    (narrow : parameters.length ≤ 255)
    (body : List Statement) :
    (∃ changed, (described typeName steps).setConstructor parameters (.statements body) =
        .ok changed) ↔
      FitsConstructor (described typeName steps).fields parameters body := by
  have distinct := (isWellFormed_described typeName steps).distinctFields
  rw [← checkConstructorBody_eq_ok_iff distinct]
  constructor
  · rintro ⟨changed, set⟩
    obtain ⟨_, _, _, _, statements, parsed, checked, _⟩ := setConstructor_eq_ok_iff.mp set
    obtain rfl := Except.ok.inj parsed
    exact checked
  · intro checked
    have early : (described typeName steps).stage ≠ .methods := fun last =>
      methods_ne_nil_of_stage typeName steps last noMethods
    exact ⟨_, setConstructor_eq_ok_iff.mpr
      ⟨noConstructor, early, valued, narrow, body, rfl, checked, rfl⟩⟩

/-- A type that is completed after its constructor has been set still has the constructor and fields. -/
theorem constructor_of_later_freeze
    {description changed : TypeDescription}
    (coherent : description.IsCoherent)
    {parameters : List ValueType}
    (set : description.setConstructor parameters (.statements body) = .ok changed)
    {later : List DescriptionStep}
    {type : FrozenType}
    (frozen : (later.foldl after changed).freeze = .ok type) :
    type.description.IsWellFormed ∧
      type.description.constructor = some ⟨parameters, body⟩ ∧
      type.description.fields = description.fields := by
  rw [(isQualifiedName_of_freeze frozen).1]
  obtain ⟨statements, parsed, coherentLater, constructor, fields⟩ :=
    coherent.exists_constructor_of_setConstructor set later
  obtain rfl := Except.ok.inj parsed
  exact ⟨coherentLater.toIsWellFormed, constructor, fields⟩

/--
While there are no constructor and no methods, a body is set as the constructor exactly when it fits.
Whatever steps follow, once the type has been completed and its module, short enough for offsets of 32
bits, is found where a loader looks for it, the loader produces a type whose objects hold the arguments
that they are constructed with.
-/
theorem setConstructor_fits_and_constructs
    {typeName : String}
    {steps : List DescriptionStep}
    (noConstructor : (described typeName steps).constructor = none)
    (noMethods : (described typeName steps).methods = [])
    {parameters : List ValueType}
    (valued : .void ∉ parameters)
    (narrow : parameters.length ≤ 255)
    (body : List Statement) :
    ((∃ changed, (described typeName steps).setConstructor parameters (.statements body) =
        .ok changed) ↔
      FitsConstructor (described typeName steps).fields parameters body) ∧
    ∀ changed,
      (described typeName steps).setConstructor parameters (.statements body) = .ok changed →
      ∀ (later : List DescriptionStep) type module, (later.foldl after changed).freeze = .ok type →
        type.generate = .ok module → module.bytes.length < 2 ^ 32 →
        ∀ (world : World) read id path,
          world.request id type.description.name = .ok (.unread path) →
          read path = .ok module.bytes →
          ∃ loaded ready,
            world.load read id type.description.name = (.ok loaded, ready) ∧
            loaded.loader = id ∧
            loaded.Constructs parameters (described typeName steps).fields body := by
  have fits := exists_setConstructor_iff noConstructor noMethods valued narrow body
  refine ⟨fits, ?_⟩
  intro changed set later type module frozen generated short world read id path requested readable
  obtain ⟨wellFormed, declared, sameFields⟩ :=
    constructor_of_later_freeze (isCoherent_described typeName steps) set frozen
  obtain ⟨image, table, accepted, implements⟩ :=
    FrozenType.exists_readModule wellFormed generated short
  obtain ⟨ready, loads⟩ := World.exists_load_of_unread requested readable accepted
  refine ⟨_, ready, loads, rfl, ?_⟩
  rw [← sameFields] at fits ⊢
  exact FrozenType.constructs_of_implements implements wellFormed declared (fits.mp ⟨changed, set⟩)

/-- Three fields, of which a constructor can initialize the first and the last. -/
def pairSteps : List DescriptionStep :=
  [.addField "a" .string .privateAccess, .addField "n" .int .privateAccess,
    .addField "b" .string .publicAccess]

/-- A body that prints a line, stores both parameters and returns. -/
def pairBody : List Statement :=
  [.print [.field "n", .parameter 2], .assign "b" 2, .assign "a" 1, .returns none]

/-- The described pair with its constructor. -/
def pairDescription : TypeDescription where
  name := "A"
  fields := [⟨"a", .string, .privateAccess⟩, ⟨"n", .int, .privateAccess⟩,
    ⟨"b", .string, .publicAccess⟩]
  constructor := some ⟨[.string, .string], pairBody⟩
  methods := []
  stage := .constructor

/-- The module of the described pair. -/
def pairModule : PackedModule where
  name := "A"
  bytes := ModuleImage.encode {
    name := "A"
    fields := pairDescription.fields
    explicitConstructor := true
    constructor :=
      ⟨constructorName, .void, [.string, .string],
        [.loadField 1, .loadParameter 1, .concatenate 2, .callExternal 0 1, .loadParameter 1,
          .storeField 2, .loadParameter 0, .storeField 0, .returnVoid]⟩
    methods := []
    strings := ⟨[Bytes.ofText "println"]⟩ }

theorem setConstructor_pairBody_fits_and_constructs :
    FitsConstructor pairDescription.fields [.string, .string] pairBody ∧
    ∃ loaded ready reference after values,
      (World.empty.openLoader "d" ".kiln").2.load (fun _ => .ok pairModule.bytes) ⟨1⟩ "A" =
        (.ok loaded, ready) ∧
      ready.construct loaded [.string "x", .null] = (.ok reference, after) ∧
      after.object? reference = some ⟨loaded, values⟩ ∧
      HoldsArguments pairDescription.fields pairBody [.string "x", .null] values := by
  have set : (described "A" pairSteps).setConstructor [.string, .string] (.statements pairBody) =
      .ok pairDescription := by
    decide +kernel
  have fields : (described "A" pairSteps).fields = pairDescription.fields := by decide +kernel
  have noConstructor : (described "A" pairSteps).constructor = none := by decide +kernel
  have noMethods : (described "A" pairSteps).methods = [] := by decide +kernel
  have valued : ValueType.void ∉ [ValueType.string, ValueType.string] := by decide
  have stillOpen : ((World.empty.openLoader "d" ".kiln").2.load
      (fun _ => .ok pairModule.bytes) ⟨1⟩ "A").2.isOpen ⟨1⟩ = true := by
    decide +kernel
  obtain ⟨fits, runs⟩ :=
    setConstructor_fits_and_constructs noConstructor noMethods valued (by decide) pairBody
  obtain ⟨loaded, ready, loads, sameLoader, constructs⟩ :=
    runs pairDescription set [] ⟨pairDescription⟩ pairModule (by decide +kernel)
      (by decide +kernel) (by decide +kernel)
      (World.empty.openLoader "d" ".kiln").2 (fun _ => .ok pairModule.bytes) ⟨1⟩ _ rfl rfl
  rw [fields] at fits constructs
  change (World.empty.openLoader "d" ".kiln").2.load _ ⟨1⟩ "A" = _ at loads
  rw [loads, ← sameLoader] at stillOpen
  obtain ⟨reference, after, values, constructed, found, holds⟩ :=
    constructs ready [.string "x", .null] stillOpen (.cons rfl (.cons rfl .nil))
  exact ⟨fits.mp ⟨_, set⟩, loaded, ready, reference, after, values, loads, constructed, found, holds⟩

end TypeDescription

end LateBinding
