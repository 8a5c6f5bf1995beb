import LateBinding.Proofs.Descriptor.Steps
import LateBinding.Proofs.Lowering.Execution

/-!
# The image of a description

The image of a description has the fields of the description, and for its constructor and each of its
methods a member with the code of the statements.  With any larger pool it still does.  The image of a
well-formed description passes all checks of loading.
-/

namespace LateBinding

/-- A member with the code of the constructor of a description. -/
structure Member.ImplementsConstructor
    (description : TypeDescription)
    (strings : StringPool)
    (member : Member) : Prop where
  name : member.name = constructorName
  parameters : member.parameters = description.constructorParameters
  code : BodyCode
    (description.memberContext constructorName description.constructorParameters .void) strings
    description.constructorBody member.code

/-- A member with the code of a method of a description. -/
structure Member.ImplementsMethod
    (description : TypeDescription)
    (strings : StringPool)
    (method : MethodDescription)
    (member : Member) : Prop where
  name : member.name = method.name
  result : member.result = method.result
  parameters : member.parameters = method.parameters
  code : ∃ statements, method.statements? = some statements ∧
    BodyCode (description.memberContext method.name method.parameters method.result) strings
      statements member.code

/-- An image of a description. -/
structure ModuleImage.Implements (image : ModuleImage) (description : TypeDescription) : Prop where
  name : image.name = description.name
  fields : image.fields = description.fields
  few : description.fields.length ≤ 65535
  constructor : image.constructor.ImplementsConstructor description image.strings
  methods : List.Forall₂ (Member.ImplementsMethod description image.strings)
    description.methods image.methods

/-! ## What lowering gives -/

theorem mapM_parse_of_flattenSegments
    {label : String}
    {segments : List Body}
    {statements : List Statement}
    (flattened : flattenSegments label segments = .ok statements) :
    (segments.mapM fun (body : Body) => body.parse.toOption).map List.flatten =
      some statements := by
  induction segments generalizing statements with
  | nil =>
      obtain rfl := Except.ok.inj flattened
      rfl
  | cons body rest inductionHypothesis =>
      obtain ⟨first, parsed, flattened⟩ := Outcome.bind_eq_ok_iff.mp flattened
      obtain ⟨later, second, flattened⟩ := Outcome.bind_eq_ok_iff.mp flattened
      obtain rfl := Except.ok.inj flattened
      have readable : body.parse = .ok first := Outcome.mapError_eq_ok_iff.mp parsed
      obtain ⟨parts, found, joined⟩ := Option.map_eq_some_iff.mp (inductionHypothesis second)
      rw [List.mapM_cons, readable, found]
      simp [Except.toOption, joined]

/-- Bodies that are all understood have statements, whatever the label of their member. -/
theorem flattenSegments_of_mapM_parse
    {segments : List Body}
    {statements : List Statement}
    (understood : (segments.mapM fun (body : Body) => body.parse.toOption).map List.flatten =
      some statements)
    (label : String) :
    flattenSegments label segments = .ok statements := by
  induction segments generalizing statements with
  | nil =>
      obtain rfl := Option.some.inj understood
      rfl
  | cons body rest inductionHypothesis =>
      obtain ⟨parts, found, rfl⟩ := Option.map_eq_some_iff.mp understood
      rw [List.mapM_cons] at found
      obtain ⟨first, readable, found⟩ := Option.bind_eq_some_iff.mp found
      obtain ⟨later, second, found⟩ := Option.bind_eq_some_iff.mp found
      obtain rfl := Option.some.inj found
      have parsed : body.parse = .ok first := by
        cases outcome : body.parse with
        | error piece => rw [outcome] at readable; nomatch readable
        | ok given => rw [outcome] at readable; exact congrArg _ (Option.some.inj readable)
      have flattened := inductionHypothesis (Option.map_eq_some_iff.mpr ⟨later, second, rfl⟩)
      exact Outcome.bind_eq_ok_iff.mpr ⟨first, Outcome.mapError_eq_ok_iff.mpr parsed,
        Outcome.bind_eq_ok_iff.mpr ⟨later.flatten, flattened, rfl⟩⟩

namespace TypeDescription

variable {description : TypeDescription} {pool later : StringPool}

theorem emits_of_lowerConstructor
    {member : Member}
    (lowered : description.lowerConstructor pool = .ok (member, later)) :
    Emits pool later fun strings => member.ImplementsConstructor description strings := by
  cases declared : description.constructor with
  | none =>
      have parameters : description.constructorParameters = [] := by
        rw [constructorParameters, declared]
        rfl
      have body : description.constructorBody = [] := by
        rw [constructorBody, declared]
        rfl
      rw [lowerConstructor, declared] at lowered
      obtain ⟨rfl, rfl⟩ := Lowering.pure_eq_ok_iff.mp lowered
      apply Emits.same
      intro strings
      refine ⟨rfl, parameters.symm, ?_⟩
      rw [body]
      exact .nil rfl
  | some given =>
      have parameters : description.constructorParameters = given.parameters := by
        rw [constructorParameters, declared]
        rfl
      have body : description.constructorBody = given.body := by
        rw [constructorBody, declared]
        rfl
      rw [lowerConstructor, declared] at lowered
      obtain ⟨code, between, first, lowered⟩ := Lowering.bind_eq_ok_iff.mp lowered
      obtain ⟨rfl, rfl⟩ := Lowering.pure_eq_ok_iff.mp lowered
      apply (MemberContext.emits_of_lowerBody first).weaken
      intro strings has
      refine ⟨rfl, parameters.symm, ?_⟩
      rw [parameters, body]
      exact has

theorem emits_of_lowerMethod
    {method : MethodDescription}
    {member : Member}
    (lowered : description.lowerMethod method pool = .ok (member, later)) :
    Emits pool later fun strings => member.ImplementsMethod description strings method := by
  obtain ⟨statements, between, lifted, lowered⟩ := Lowering.bind_eq_ok_iff.mp lowered
  obtain ⟨flattened, rfl⟩ := Lowering.lift_eq_ok_iff.mp lifted
  obtain ⟨code, _, first, lowered⟩ := Lowering.bind_eq_ok_iff.mp lowered
  obtain ⟨rfl, rfl⟩ := Lowering.pure_eq_ok_iff.mp lowered
  apply (MemberContext.emits_of_lowerBody first).weaken
  intro strings has
  exact ⟨rfl, rfl, rfl, statements, mapM_parse_of_flattenSegments flattened, has⟩

theorem emits_of_lowerMethods
    {methods : List MethodDescription}
    {members : List Member}
    (lowered : description.lowerMethods methods pool = .ok (members, later)) :
    Emits pool later fun strings =>
      List.Forall₂ (Member.ImplementsMethod description strings) methods members := by
  induction methods generalizing pool members with
  | nil =>
      obtain ⟨rfl, rfl⟩ := Lowering.pure_eq_ok_iff.mp lowered
      exact Emits.same fun strings => .nil
  | cons method rest inductionHypothesis =>
      obtain ⟨member, between, first, lowered⟩ := Lowering.bind_eq_ok_iff.mp lowered
      obtain ⟨following, _, second, lowered⟩ := Lowering.bind_eq_ok_iff.mp lowered
      obtain ⟨rfl, rfl⟩ := Lowering.pure_eq_ok_iff.mp lowered
      apply ((emits_of_lowerMethod first).both (inductionHypothesis second)).weaken
      rintro strings ⟨head, tail⟩
      exact .cons head tail

end TypeDescription

/-- The lowered image implements its description with every larger pool. -/
theorem FrozenType.implements_of_lower
    {type : FrozenType}
    {image : ModuleImage}
    (lowered : type.lower = .ok image)
    {strings : StringPool}
    (extension : strings.Extends image.strings)
    (small : strings.size ≤ 2 ^ 32) :
    ({ image with strings := strings }).Implements type.description := by
  unfold FrozenType.lower at lowered
  dsimp only at lowered
  split at lowered
  · nomatch lowered
  next few =>
  obtain ⟨⟨⟨constructor, methods⟩, complete⟩, members, lowered⟩ :=
    Outcome.bind_eq_ok_iff.mp lowered
  obtain rfl := Except.ok.inj lowered
  obtain ⟨first, between, constructed, members⟩ := Lowering.bind_eq_ok_iff.mp members
  obtain ⟨rest, _, methodsLowered, members⟩ := Lowering.bind_eq_ok_iff.mp members
  obtain ⟨same, rfl⟩ := Lowering.pure_eq_ok_iff.mp members
  obtain ⟨rfl, rfl⟩ := Prod.mk.inj same
  have emits := (TypeDescription.emits_of_lowerConstructor constructed).both
    (TypeDescription.emits_of_lowerMethods methodsLowered)
  obtain ⟨implemented, allImplemented⟩ := emits.2 strings extension small
  exact ⟨rfl, rfl, Nat.le_of_not_lt few, implemented, allImplemented⟩

/-! ## Checks that images pass -/

theorem exists_mem_of_forall₂
    {relation : Item → Other → Prop}
    {items : List Item}
    {others : List Other}
    (related : List.Forall₂ relation items others)
    {other : Other}
    (present : other ∈ others) :
    ∃ item ∈ items, relation item other := by
  induction related with
  | nil => simp at present
  | @cons item _ _ _ head _ inductionHypothesis =>
      rcases List.mem_cons.mp present with rfl | later
      · exact ⟨item, List.mem_cons_self, head⟩
      · obtain ⟨found, among, related⟩ := inductionHypothesis later
        exact ⟨found, List.mem_cons_of_mem _ among, related⟩

namespace ModuleImage.Implements

variable {image : ModuleImage} {description : TypeDescription}

theorem constructorContext_fits
    (implements : image.Implements description)
    (wellFormed : description.IsWellFormed) :
    (description.memberContext constructorName description.constructorParameters .void).Fits where
  distinct := wellFormed.distinctFields
  fewFields := implements.few
  fewParameters := by
    change description.constructorParameters.length ≤ 255
    cases declared : description.constructor with
    | none =>
        rw [TypeDescription.constructorParameters, declared]
        exact Nat.zero_le _
    | some given =>
        rw [TypeDescription.constructorParameters, declared]
        exact wellFormed.narrowConstructor given declared

theorem methodContext_fits
    (implements : image.Implements description)
    (wellFormed : description.IsWellFormed)
    {method : MethodDescription}
    (present : method ∈ description.methods) :
    (description.memberContext method.name method.parameters method.result).Fits :=
  ⟨wellFormed.distinctFields, implements.few, wellFormed.narrowMethods method present⟩

/-- Every member of the image has the code of statements in a context that fits. -/
theorem bodyCode
    (implements : image.Implements description)
    (wellFormed : description.IsWellFormed)
    {member : Member}
    (present : member ∈ image.members) :
    ∃ context statements, context.Fits ∧ context.fields = image.fields ∧
      context.parameters = member.parameters ∧
      BodyCode context image.strings statements member.code := by
  rcases List.mem_cons.mp present with rfl | inMethods
  · exact ⟨_, _, implements.constructorContext_fits wellFormed, implements.fields.symm,
      implements.constructor.parameters.symm, implements.constructor.code⟩
  · obtain ⟨method, among, implemented⟩ := exists_mem_of_forall₂ implements.methods inMethods
    obtain ⟨statements, _, code⟩ := implemented.code
    exact ⟨_, _, implements.methodContext_fits wellFormed among, implements.fields.symm,
      implemented.parameters.symm, code⟩

theorem isSound
    (implements : image.Implements description)
    (wellFormed : description.IsWellFormed) :
    image.IsSound := by
  intro member present
  obtain ⟨context, statements, fits, fields, parameters, code⟩ :=
    implements.bodyCode wellFormed present
  rw [← fields, ← parameters]
  exact (code.isSafe fits).sound

theorem isBound
    (implements : image.Implements description)
    (wellFormed : description.IsWellFormed) :
    ∀ member ∈ image.members, member.code.IsBound image.strings := by
  intro member present
  obtain ⟨context, statements, fits, _, _, code⟩ := implements.bodyCode wellFormed present
  exact (code.isSafe fits).bound

theorem narrow
    (implements : image.Implements description)
    (wellFormed : description.IsWellFormed) :
    ∀ member ∈ image.members, member.parameters.length ≤ 255 := by
  intro member present
  obtain ⟨context, statements, fits, _, parameters, _⟩ := implements.bodyCode wellFormed present
  rw [← parameters]
  exact fits.fewParameters

/-- The methods of the image have the names and parameters of the described ones. -/
theorem map_key
    (implements : image.Implements description) :
    image.methods.map Member.key = description.methods.map MethodDescription.key := by
  have methods := implements.methods
  generalize description.methods = described at methods
  generalize image.methods = members at methods
  induction methods with
  | nil => rfl
  | cons head _ inductionHypothesis =>
      rw [List.map_cons, List.map_cons, inductionHypothesis, Member.key, MethodDescription.key,
        head.name, head.parameters]

end ModuleImage.Implements
end LateBinding
