import LateBinding.Text.CodePoints

/-!
# White space

The code points with the Unicode property White_Space, and the removal of white space at both
ends of a text.
-/

namespace LateBinding
namespace Text

/-- The ranges of the property White_Space. -/
def whiteSpaceRanges : CodePointRanges :=
  [(0x0009, 0x000D), (0x0020, 0x0020), (0x0085, 0x0085), (0x00A0, 0x00A0), (0x1680, 0x1680),
   (0x2000, 0x200A), (0x2028, 0x2029), (0x202F, 0x202F), (0x205F, 0x205F), (0x3000, 0x3000)]

/-- A character is white space when its code point has the property White_Space. -/
def isWhiteSpace (character : Char) : Bool :=
  whiteSpaceRanges.contains character.toNat

/-- The text without the white space at its end. -/
def trimEnd (text : List Char) : List Char :=
  (text.reverse.dropWhile isWhiteSpace).reverse

/-- The text without the white space at its two ends. -/
def trim (text : List Char) : List Char :=
  trimEnd (text.dropWhile isWhiteSpace)

/-- The string without the white space at its two ends. -/
def trimString (text : String) : String :=
  String.ofList (trim text.toList)

end Text
end LateBinding
