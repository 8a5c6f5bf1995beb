import LateBinding.Text.Identifier
import LateBinding.Text.Split

/-!
# Names

Members have identifiers as names, and types have qualified names: identifiers with points between
them.  The segments of a qualified name become the parts of a path when its module is stored.
-/

namespace LateBinding

open Text

/-- An identifier starts with an alphabetic character, an underscore or a dollar sign. -/
def startsName (character : Char) : Bool :=
  isAlphabetic character || character = '_' || character = '$'

/-- An identifier continues with alphanumeric characters, underscores and dollar signs. -/
def continuesName (character : Char) : Bool :=
  isAlphanumeric character || character = '_' || character = '$'

/-- Whether a text is an identifier. -/
def isIdentifier : List Char → Bool
  | [] => false
  | first :: rest => startsName first && rest.all continuesName

/-- The segments of a name between its points. -/
def nameSegments (name : String) : List (List Char) :=
  splitOn '.' name.toList

/-- What keeps a name from being a qualified name: that it is empty, or its first bad segment. -/
def qualifiedNameFault? (name : String) : Option String :=
  if name = "" then some "name is empty"
  else
    ((nameSegments name).find? fun segment => !isIdentifier segment).map fun segment =>
      s!"segment '{String.ofList segment}' is not an identifier"

/-- A name is qualified when every segment of it is an identifier. -/
def isQualifiedName (name : String) : Bool :=
  (nameSegments name).all isIdentifier

/-- A name has no fault exactly when it is qualified. -/
theorem qualifiedNameFault?_eq_none_iff (name : String) :
    qualifiedNameFault? name = none ↔ isQualifiedName name = true := by
  unfold qualifiedNameFault? isQualifiedName
  split
  · next empty => subst empty; decide
  · simp

end LateBinding
