import LateBinding.Text.Quoted

/-!
# Statements

The bodies of members are lists of statements of three kinds: storing a parameter in a field,
printing a line, and returning.
-/

namespace LateBinding

/-- A term whose value is printed or returned. -/
inductive Operand where
  /-- The value of a field. -/
  | field (name : String)
  /-- The value of a parameter; parameters are numbered from one. -/
  | parameter (number : Nat)
  /-- A text. -/
  | string (text : String)
  /-- An integer. -/
  | int (number : Int32)
  deriving DecidableEq, Repr, Inhabited

/-- A statement of a member's body. -/
inductive Statement where
  /-- Stores a parameter in a field. -/
  | assign (field : String) (parameter : Nat)
  /-- Prints the texts of the operands, one after the other, as a line. -/
  | print (operands : List Operand)
  /-- Leaves the member, with a value or without one. -/
  | returns (value : Option Operand)
  deriving DecidableEq, Repr, Inhabited

/-- The structure of an operand, as messages show it. -/
def Operand.outline : Operand → String
  | field name => "Field(" ++ Text.quoted name ++ ")"
  | parameter number => "Param(" ++ toString number ++ ")"
  | string text => "Str(" ++ Text.quoted text ++ ")"
  | int number => "Int(" ++ toString number.toInt ++ ")"

/-- The structure of a statement, as messages show it. -/
def Statement.outline : Statement → String
  | assign field parameter =>
      "Assign \x7b field: " ++ Text.quoted field ++ ", param: " ++ toString parameter ++ " \x7d"
  | print operands =>
      "Print([" ++ String.intercalate ", " (operands.map Operand.outline) ++ "])"
  | returns none => "Return(None)"
  | returns (some value) => "Return(Some(" ++ value.outline ++ "))"

end LateBinding
