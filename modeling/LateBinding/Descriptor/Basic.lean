import LateBinding.Descriptor.Error
import LateBinding.Descriptor.Name
import LateBinding.Snippet.Basic
import LateBinding.Value.Field

/-!
# Descriptions of types

A type is described step by step: first its fields, then its constructor, then its methods.  A
step that does not fit is refused and leaves the description as it was.  A frozen description has a
qualified name and takes no further steps.
-/

namespace LateBinding

/-- A described constructor; its body has been checked against the fields. -/
structure ConstructorDescription where
  /-- The types of the parameters. -/
  parameters : List ValueType
  /-- The statements. -/
  body : List Statement
  deriving DecidableEq, Repr, Inhabited

/-- A described method. -/
structure MethodDescription where
  /-- The name. -/
  name : String
  /-- The type of the result. -/
  result : ValueType
  /-- The types of the parameters. -/
  parameters : List ValueType
  /-- The bodies that are carried out one after the other. -/
  segments : List Body
  deriving DecidableEq, Repr, Inhabited

/-- The name and the parameter types of a method. -/
def MethodDescription.signature (method : MethodDescription) : String :=
  signatureText method.name method.parameters

/-- Whether a method has a name and parameter types. -/
def MethodDescription.hasSignature
    (method : MethodDescription)
    (name : String)
    (parameters : List ValueType) :
    Bool :=
  method.name = name && method.parameters = parameters

/-- The description of a type. -/
structure TypeDescription where
  /-- The name. -/
  name : String
  /-- The fields in the order of their declaration. -/
  fields : List Field
  /-- The constructor; without one the type is constructed from nothing. -/
  constructor : Option ConstructorDescription
  /-- The methods in the order of their declaration. -/
  methods : List MethodDescription
  /-- How far the description has come. -/
  stage : Stage
  deriving DecidableEq, Repr, Inhabited

/-- The text of a member of a type in messages. -/
def memberLabel (typeName name : String) (parameters : List ValueType) : String :=
  s!"{typeName}.{signatureText name parameters}"

/-- The statements of a member's body. -/
def Body.statementsOf (body : Body) (member : String) : Except BuildError (List Statement) :=
  body.parse.mapError fun piece => .unsupportedBody member piece

/-- Asks that a name is an identifier. -/
def requireIdentifier (name : String) : Except BuildError Unit :=
  if isIdentifier name.toList then .ok () else .error (.invalidName name "not an identifier")

/-- Asks that no parameter is void and that there are at most 255. -/
def requireParameters (member : String) (parameters : List ValueType) : Except BuildError Unit :=
  if parameters.contains .void then
    .error (.signatureMismatch member "parameter cannot be void")
  else if 255 < parameters.length then
    .error (.signatureMismatch member s!"too many parameters ({parameters.length})")
  else .ok ()

namespace TypeDescription

/-- The description of a type of which nothing but the name is known. -/
def new (name : String) : TypeDescription where
  name := name
  fields := []
  constructor := none
  methods := []
  stage := .fields

/-- Asks that members of a stage can still be added. -/
def requireStage
    (description : TypeDescription)
    (wanted : Stage)
    (member : String) :
    Except BuildError Unit :=
  if wanted.rank < description.stage.rank then
    .error (.outOfOrder description.name member description.stage.text)
  else .ok ()

/-- The first method of a name and parameter types. -/
def findMethod?
    (description : TypeDescription)
    (name : String)
    (parameters : List ValueType) :
    Option MethodDescription :=
  description.methods.find? fun method => method.hasSignature name parameters

/-- Adds a field, which has a new name and is not void. -/
def addField
    (description : TypeDescription)
    (name : String)
    (type : ValueType)
    (visibility : Visibility) :
    Except BuildError TypeDescription := do
  description.requireStage .fields s!"field '{name}'"
  requireIdentifier name
  if (fieldIndex? description.fields name).isSome then
    throw (.duplicateField description.name name)
  if type = .void then
    throw (.signatureMismatch s!"{description.name}.{name}" "field cannot be void")
  return { description with fields := description.fields ++ [⟨name, type, visibility⟩] }

/-- Adds a method, which has a new name or new parameter types. -/
def addMethod
    (description : TypeDescription)
    (name : String)
    (result : ValueType)
    (parameters : List ValueType)
    (body : Body) :
    Except BuildError TypeDescription := do
  description.requireStage .methods s!"method '{name}'"
  requireIdentifier name
  if (description.findMethod? name parameters).isSome then
    throw (.duplicateMethod description.name (signatureText name parameters))
  requireParameters (memberLabel description.name name parameters) parameters
  return { description with
    methods := description.methods ++ [⟨name, result, parameters, [body]⟩]
    stage := .methods }

/-- Puts a body in front of the bodies of the first method of a signature. -/
def insertInFront
    (name : String)
    (parameters : List ValueType)
    (body : Body) :
    List MethodDescription → List MethodDescription
  | [] => []
  | method :: rest =>
      if method.hasSignature name parameters then
        { method with segments := body :: method.segments } :: rest
      else method :: insertInFront name parameters body rest

/-- Puts a body in front of the bodies of a method. -/
def insertBefore
    (description : TypeDescription)
    (name : String)
    (parameters : List ValueType)
    (body : Body) :
    Except BuildError TypeDescription :=
  if (description.findMethod? name parameters).isSome then
    .ok { description with methods := insertInFront name parameters body description.methods }
  else .error (.unknownMethod description.name (signatureText name parameters))

end TypeDescription

/-- A complete description. -/
structure FrozenType where
  /-- The description. -/
  description : TypeDescription
  deriving DecidableEq, Repr, Inhabited

/-- Completes a description, whose name has to be a qualified name. -/
def TypeDescription.freeze (description : TypeDescription) : Except BuildError FrozenType :=
  match qualifiedNameFault? description.name with
  | some reason => .error (.invalidName description.name reason)
  | none => .ok ⟨description⟩

end LateBinding
