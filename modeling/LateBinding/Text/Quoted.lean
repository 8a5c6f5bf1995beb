import LateBinding.Text.Escaped
import LateBinding.Text.Hexadecimal

/-!
# Quoted text

A text between double quotes in which quotes, backslashes and characters without a printed form
are escaped, so that a reader of a message can tell every character.
-/

namespace LateBinding
namespace Text

/--
The quoted form of one character: a short escape where there is one, the code point in braces for
a character without a printed form, and the character itself otherwise.
-/
def quotedCharacter (character : Char) : String :=
  if character = '\x00' then "\\0"
  else if character = '\t' then "\\t"
  else if character = '\r' then "\\r"
  else if character = '\n' then "\\n"
  else if character = '"' then "\\\""
  else if character = '\\' then "\\\\"
  else if isEscaped character then "\\u\x7b" ++ hexDigits character.toNat ++ "\x7d"
  else String.singleton character

/-- The quoted form of a text. -/
def quoted (text : String) : String :=
  "\"" ++ String.join (text.toList.map quotedCharacter) ++ "\""

end Text
end LateBinding
