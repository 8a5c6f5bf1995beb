import LateBinding.Calling.Dispatch
import LateBinding.Descriptor.Basic
import LateBinding.Proofs.Value.Field

/-!
# What a description means

The members of a described type, carried out as their statements say.  Fields are known by name only;
there is no code, no stack and no pool.  A statement that names something that is not declared has no
meaning.
-/

namespace LateBinding

/-- The values of fields by name; only declared fields have one. -/
abbrev FieldStore :=
  String → Option Value

namespace FieldStore

/-- Every field has the initial value of its type. -/
def initial (fields : List Field) : FieldStore := fun name =>
  (fields.find? fun field => field.name = name).map fun field => Value.initial field.type

def assign (store : FieldStore) (name : String) (value : Value) : FieldStore := fun other =>
  if other = name then some value else store other

/-- The values of objects are those that the store gives to the fields, in their order. -/
def Agrees (store : FieldStore) (fields : List Field) (values : List Value) : Prop :=
  values.map some = fields.map fun field => store field.name

end FieldStore

/-- What statements come to when they are carried out. -/
structure Effect where
  /-- The returned value. -/
  result : Value
  /-- The fields afterwards. -/
  store : FieldStore
  /-- The printed lines. -/
  lines : List String

/-- An argument; arguments are numbered from one. -/
def argument? (arguments : List Value) (number : Nat) : Option Value :=
  if number = 0 then none else arguments[number - 1]?

def Operand.value? (arguments : List Value) (store : FieldStore) : Operand → Option Value
  | field name => store name
  | parameter number => argument? arguments number
  | string text => some (.string text)
  | int number => some (.int number)

/-- The effect of statements up to the first return, or of all of them. -/
def effect? (arguments : List Value) (store : FieldStore) : List Statement → Option Effect
  | [] => some ⟨.null, store, []⟩
  | .assign name number :: rest => do
      let _ ← store name
      let value ← argument? arguments number
      effect? arguments (store.assign name value) rest
  | .print operands :: rest => do
      let values ← operands.mapM (Operand.value? arguments store)
      let later ← effect? arguments store rest
      return { later with lines := String.join (values.map Value.text) :: later.lines }
  | .returns none :: _ => some ⟨.null, store, []⟩
  | .returns (some operand) :: _ => do
      return ⟨← operand.value? arguments store, store, []⟩

/-- The statements of all bodies of a method, one body after the other. -/
def MethodDescription.statements? (method : MethodDescription) : Option (List Statement) :=
  (method.segments.mapM fun (body : Body) => body.parse.toOption).map List.flatten

/-- A call of a method by name. -/
structure Call where
  /-- The name of the method. -/
  method : String
  /-- The arguments. -/
  arguments : List Value

/-- What calls one after the other come to. -/
structure History where
  /-- The returned values. -/
  results : List Value
  /-- The fields in the end. -/
  store : FieldStore
  /-- All printed lines. -/
  lines : List String

namespace TypeDescription

/-- The parameters of the constructor; one that is not declared has none. -/
def constructorParameters (description : TypeDescription) : List ValueType :=
  (description.constructor.map ConstructorDescription.parameters).getD []

/-- The statements of the constructor; one that is not declared has none. -/
def constructorBody (description : TypeDescription) : List Statement :=
  (description.constructor.map ConstructorDescription.body).getD []

/-- The constructor takes arguments, as many as it has parameters, that its parameters accept. -/
def ConstructorAccepts
    (description : TypeDescription)
    (loader : LoaderId)
    (arguments : List Value) : Prop :=
  arguments.length = description.constructorParameters.length ∧
    acceptsAll loader description.constructorParameters arguments = true

/-- The methods of a call's name that accept its arguments. -/
def accepting
    (description : TypeDescription)
    (loader : LoaderId)
    (call : Call) : List MethodDescription :=
  description.methods.filter fun method =>
    method.name = call.method && method.parameters.length = call.arguments.length &&
      acceptsAll loader method.parameters call.arguments

/-- The effect of a call that exactly one method accepts. -/
def call?
    (description : TypeDescription)
    (loader : LoaderId)
    (store : FieldStore)
    (call : Call) : Option Effect :=
  match description.accepting loader call with
  | [method] => do effect? call.arguments store (← method.statements?)
  | _ => none

def calls?
    (description : TypeDescription)
    (loader : LoaderId)
    (store : FieldStore) : List Call → Option History
  | [] => some ⟨[], store, []⟩
  | call :: rest => do
      let first ← description.call? loader store call
      let later ← description.calls? loader first.store rest
      return ⟨first.result :: later.results, later.store, first.lines ++ later.lines⟩

/-- The history of an object: its construction, and the calls that follow. -/
def history?
    (description : TypeDescription)
    (loader : LoaderId)
    (arguments : List Value)
    (calls : List Call) : Option History := do
  let made ← effect? arguments (.initial description.fields) description.constructorBody
  let later ← description.calls? loader made.store calls
  return { later with lines := made.lines ++ later.lines }

end TypeDescription

/-! ## Values by name and by index -/

namespace FieldStore

variable {store : FieldStore} {fields : List Field} {values : List Value}

theorem Agrees.length
    (agrees : store.Agrees fields values) :
    values.length = fields.length := by
  have lengths := congrArg List.length agrees
  rwa [List.length_map, List.length_map] at lengths

/-- The value at the index of a field is the value of the field's name. -/
theorem Agrees.value
    (agrees : store.Agrees fields values)
    {name : String}
    {index : Nat}
    {field : Field}
    (found : findField? fields name = some (index, field)) :
    ∃ value, values[index]? = some value ∧ store name = some value := by
  have there := (findField?_eq_some_iff.mp found).2
  have same := congrArg (fun list => list[index]?) agrees
  simp only [List.getElem?_map, there, Option.map_some, name_of_findField? found] at same
  obtain ⟨value, at_, equal⟩ := Option.map_eq_some_iff.mp same
  exact ⟨value, at_, equal.symm⟩

/-- Storing at the index of a field and assigning to its name agree when no two fields share a name. -/
theorem Agrees.assign
    (agrees : store.Agrees fields values)
    (distinct : (fields.map Field.name).Nodup)
    {name : String}
    {index : Nat}
    {field : Field}
    (found : findField? fields name = some (index, field))
    (value : Value) :
    (store.assign name value).Agrees fields (values.set index value) := by
  have there := (findField?_eq_some_iff.mp found).2
  have named := name_of_findField? found
  apply List.ext_getElem?
  intro position
  have same := congrArg (fun list => list[position]?) agrees
  simp only [List.getElem?_map] at same ⊢
  by_cases here : index = position
  · subst here
    have inside : index < values.length := by
      rw [agrees.length]
      exact (List.getElem?_eq_some_iff.mp there).1
    rw [List.getElem?_set_self inside, there]
    simp [FieldStore.assign, named]
  · rw [List.getElem?_set_ne here, same]
    cases other : fields[position]? with
    | none => rfl
    | some neighbour =>
        -- A second field of the name would keep its old value here, but take the new one by name.
        have different : neighbour.name ≠ name := by
          intro equal
          apply here
          have first : (fields.map Field.name)[index]? = some name := by
            rw [List.getElem?_map, there, Option.map_some, named]
          have second : (fields.map Field.name)[position]? = some name := by
            rw [List.getElem?_map, other, Option.map_some, equal]
          exact (List.getElem?_inj (List.getElem?_eq_some_iff.mp first).1 distinct).mp
            (first.trans second.symm)
        simp [FieldStore.assign, different]

theorem initial_agrees (distinct : (fields.map Field.name).Nodup) :
    (initial fields).Agrees fields (fields.map fun field => Value.initial field.type) := by
  unfold Agrees initial
  rw [List.map_map]
  apply List.map_congr_left
  intro field present
  simp [find?_name_of_mem distinct present]

end FieldStore
end LateBinding
