import LateBinding.Text.Alphabetic
import LateBinding.Text.Numeric

/-!
# Characters of identifiers

Identifiers are made of alphabetic and numeric characters of any script.
-/

namespace LateBinding
namespace Text

/-- A character is alphanumeric when it is alphabetic or numeric. -/
def isAlphanumeric (character : Char) : Bool :=
  isAlphabetic character || isNumeric character

/-- The decimal digits of ASCII. -/
def isAsciiDigit (character : Char) : Bool :=
  '0' ≤ character && character ≤ '9'

theorem isAlphanumeric_of_isAlphabetic {character : Char}
    (alphabetic : isAlphabetic character = true) :
    isAlphanumeric character = true := by
  simp [isAlphanumeric, alphabetic]

end Text
end LateBinding
