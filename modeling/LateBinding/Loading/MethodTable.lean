import LateBinding.Lowering

/-!
# Method tables

The methods of a loaded type by name and parameter types.  A module whose methods share both has no
table, and neither has one whose code calls anything but the printing function with one argument.
-/

namespace LateBinding

/-- The name and the parameter types of a method. -/
abbrev MethodKey :=
  String × List ValueType

/-- The name and the parameter types of a member. -/
def Member.key (member : Member) : MethodKey :=
  (member.name, member.parameters)

/-- The positions of methods by key. -/
structure MethodTable where
  /-- The keys with their positions; no key occurs twice. -/
  entries : List (MethodKey × Nat)
  deriving DecidableEq, Repr, Inhabited

namespace MethodTable

/-- The table without methods. -/
def empty : MethodTable :=
  ⟨[]⟩

/-- The position of a key. -/
def find? (table : MethodTable) (key : MethodKey) : Option Nat :=
  table.entries.lookup key

/-- Entries with a position for a key, in place of the one it had. -/
def insertEntry (key : MethodKey) (position : Nat) :
    List (MethodKey × Nat) → List (MethodKey × Nat)
  | [] => [(key, position)]
  | (other, held) :: rest =>
      if other = key then (key, position) :: rest
      else (other, held) :: insertEntry key position rest

/-- A table with a position for a key, in place of the one it had. -/
def insert (table : MethodTable) (key : MethodKey) (position : Nat) : MethodTable :=
  ⟨insertEntry key position table.entries⟩

/--
The table of methods of which the first has a given position, on top of a table; or the signature
of the first method whose key is in the table already.
-/
def addMethods (table : MethodTable) (position : Nat) : List Member → Except String MethodTable
  | [] => .ok table
  | method :: rest =>
      if (table.find? method.key).isSome then .error s!"duplicate method {method.signature}"
      else (table.insert method.key position).addMethods (position + 1) rest

/-- What an instruction calls that is not there. -/
def unboundCall? (strings : StringPool) (member : Member) : Instruction → Option String
  | .callExternal name arity =>
      let function := (strings.get? name).getD ""
      if function = printFunction && arity = 1 then none
      else some s!"{member.signature} calls unbound external {function}/{arity}"
  | _ => none

/-- The first call of a module of something that is not there. -/
def firstUnboundCall? (image : ModuleImage) : Option String :=
  image.members.findSome? fun member =>
    member.code.findSome? (unboundCall? image.strings member)

/-- The table of a module. -/
def ofImage (image : ModuleImage) : Except String MethodTable :=
  match firstUnboundCall? image with
  | some fault => .error fault
  | none => empty.addMethods 0 image.methods

end MethodTable
end LateBinding
