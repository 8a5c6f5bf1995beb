import LateBinding.Proofs.Descriptor.Steps

/-!
# Descriptions that are changed in place

A builder has one description, which its steps look at and change part by part.  A step that is
refused halfway would leave the parts that it has changed.  No step does: each finishes its checks
before it changes anything, so taking it in place comes to the same as taking it on a copy.
-/

namespace LateBinding

/-- A computation that looks at a description, changes it and may be refused at any point. -/
abbrev Edit :=
  ExceptT BuildError (StateM TypeDescription)

namespace Edit

variable {Item : Type}

/-- What comes of an edit, and the description that it leaves. -/
def on (edit : Edit Item) (description : TypeDescription) :
    Except BuildError Item × TypeDescription :=
  edit.run description

/-- Adds a field in place. -/
def addField (name : String) (type : ValueType) (visibility : Visibility) : Edit Unit := do
  let description ← get
  description.requireStage .fields s!"field '{name}'"
  requireIdentifier name
  if (fieldIndex? description.fields name).isSome then
    throw (.duplicateField description.name name)
  if type = .void then
    throw (.signatureMismatch s!"{description.name}.{name}" "field cannot be void")
  modify fun held => { held with fields := held.fields ++ [⟨name, type, visibility⟩] }

/-- Sets the constructor in place, and then goes on to its stage. -/
def setConstructor (parameters : List ValueType) (body : Body) : Edit Unit := do
  let description ← get
  if description.constructor.isSome then
    throw (.constructorAlreadySet description.name)
  description.requireStage .constructor "the constructor"
  let member := memberLabel description.name "<init>" parameters
  requireParameters member parameters
  let statements ← body.statementsOf member
  (checkConstructorBody description.fields parameters statements).mapError fun reason =>
    BuildError.signatureMismatch member reason
  modify fun held => { held with constructor := some ⟨parameters, statements⟩ }
  modify fun held => { held with stage := .constructor }

/-- Adds a method in place, and then goes on to its stage. -/
def addMethod
    (name : String)
    (result : ValueType)
    (parameters : List ValueType)
    (body : Body) :
    Edit Unit := do
  let description ← get
  description.requireStage .methods s!"method '{name}'"
  requireIdentifier name
  if (description.findMethod? name parameters).isSome then
    throw (.duplicateMethod description.name (signatureText name parameters))
  requireParameters (memberLabel description.name name parameters) parameters
  modify fun held => { held with methods := held.methods ++ [⟨name, result, parameters, [body]⟩] }
  modify fun held => { held with stage := .methods }

/-- Puts a body in front of those of a method in place. -/
def insertBefore (name : String) (parameters : List ValueType) (body : Body) : Edit Unit := do
  let description ← get
  if (description.findMethod? name parameters).isNone then
    throw (.unknownMethod description.name (signatureText name parameters))
  modify fun held =>
    { held with
      methods := TypeDescription.insertInFront name parameters body held.methods }

/-- A step that is taken in place. -/
def step : DescriptionStep → Edit Unit
  | .addField name type visibility => addField name type visibility
  | .setConstructor parameters body => setConstructor parameters body
  | .addMethod name result parameters body => addMethod name result parameters body
  | .insertBefore name parameters body => insertBefore name parameters body

/-- What comes of a change that was prepared on a copy. -/
def ofCopy (description : TypeDescription) :
    Except BuildError TypeDescription → Except BuildError Unit × TypeDescription
  | .ok changed => (.ok (), changed)
  | .error fault => (.error fault, description)

variable {description : TypeDescription}

/-- A check that is made in place is made on the copy, and the same follows. -/
theorem on_check_bind
    {check : Except BuildError Item}
    {next : Item → Edit Unit}
    {copy : Item → Except BuildError TypeDescription}
    (same : ∀ item, (next item).on description = ofCopy description (copy item)) :
    ((liftM check : Edit Item) >>= next).on description = ofCopy description (check >>= copy) := by
  cases check with
  | error fault => rfl
  | ok item => exact same item

theorem on_addField (name : String) (type : ValueType) (visibility : Visibility) :
    (addField name type visibility).on description =
      ofCopy description (description.addField name type visibility) := by
  change (liftM (description.requireStage _ _) >>= _ : Edit Unit).on description = _
  apply on_check_bind
  intro _
  apply on_check_bind
  intro _
  dsimp only
  split
  · rfl
  · split
    · rfl
    · rfl

theorem on_setConstructor (parameters : List ValueType) (body : Body) :
    (setConstructor parameters body).on description =
      ofCopy description (description.setConstructor parameters body) := by
  unfold TypeDescription.setConstructor
  change (if description.constructor.isSome = true then _ else _ : Edit Unit).on description = _
  split
  · rfl
  · apply on_check_bind
    intro _
    apply on_check_bind
    intro _
    apply on_check_bind
    intro _
    apply on_check_bind
    intro _
    rfl

theorem on_addMethod
    (name : String)
    (result : ValueType)
    (parameters : List ValueType)
    (body : Body) :
    (addMethod name result parameters body).on description =
      ofCopy description (description.addMethod name result parameters body) := by
  change (liftM (description.requireStage _ _) >>= _ : Edit Unit).on description = _
  apply on_check_bind
  intro _
  apply on_check_bind
  intro _
  dsimp only
  split
  · rfl
  · apply on_check_bind
    intro _
    rfl

theorem on_insertBefore (name : String) (parameters : List ValueType) (body : Body) :
    (insertBefore name parameters body).on description =
      ofCopy description (description.insertBefore name parameters body) := by
  unfold TypeDescription.insertBefore
  change (if (description.findMethod? name parameters).isNone = true then _ else _ : Edit Unit).on
    description = _
  cases description.findMethod? name parameters with
  | none => rfl
  | some method => rfl

/-- A step in place comes to what it comes to on a copy that is put in place if it succeeds. -/
theorem on_step (description : TypeDescription) (step : DescriptionStep) :
    (Edit.step step).on description =
      ((description.attempt step).map fun _ => (), description.after step) := by
  have copied : (Edit.step step).on description =
      ofCopy description (description.attempt step) := by
    cases step with
    | addField name type visibility => exact on_addField name type visibility
    | setConstructor parameters body => exact on_setConstructor parameters body
    | addMethod name result parameters body => exact on_addMethod name result parameters body
    | insertBefore name parameters body => exact on_insertBefore name parameters body
  rw [copied, TypeDescription.after]
  cases description.attempt step <;> rfl

end Edit

/-- The description of a name after steps in place, whatever has come of each. -/
def TypeDescription.edited (name : String) (steps : List DescriptionStep) : TypeDescription :=
  steps.foldl (fun description step => ((Edit.step step).on description).2) (new name)

theorem TypeDescription.edited_eq_described (name : String) (steps : List DescriptionStep) :
    edited name steps = described name steps := by
  simp only [edited, described, Edit.on_step]

end LateBinding
