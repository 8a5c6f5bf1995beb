/-!
# Visibility of fields

The access level that a field is declared with.  It is recorded in modules and summaries.
-/

namespace LateBinding

/-- Who may name a field. -/
inductive Visibility where
  /-- Everyone. -/
  | publicAccess
  /-- The type and the types derived from it. -/
  | protectedAccess
  /-- The type alone. -/
  | privateAccess
  deriving DecidableEq, Repr, Inhabited

namespace Visibility

/-- The word for a visibility. -/
def text : Visibility → String
  | publicAccess => "public"
  | protectedAccess => "protected"
  | privateAccess => "private"

/-- The code of a visibility in a module. -/
def code : Visibility → UInt8
  | publicAccess => 0
  | protectedAccess => 1
  | privateAccess => 2

/-- The visibility of a code. -/
def ofCode? (code : UInt8) : Option Visibility :=
  if code = 0 then some publicAccess
  else if code = 1 then some protectedAccess
  else if code = 2 then some privateAccess
  else none

@[simp]
theorem ofCode?_code (visibility : Visibility) :
    ofCode? visibility.code = some visibility := by
  cases visibility <;> rfl

end Visibility
end LateBinding
