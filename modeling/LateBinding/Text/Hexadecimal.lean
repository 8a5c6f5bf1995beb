/-!
# Hexadecimal digits

Numbers and bytes written in lower-case hexadecimal digits.
-/

namespace LateBinding
namespace Text

/-- The lower-case hexadecimal digits of a number, without leading zeros. -/
def hexDigits (number : Nat) : String :=
  String.ofList (Nat.toDigits 16 number)

/-- The lower-case hexadecimal digits of a number, with zeros in front up to a least width. -/
def hexPadded (width : Nat) (number : Nat) : String :=
  let digits := Nat.toDigits 16 number
  String.ofList (List.replicate (width - digits.length) '0' ++ digits)

/-- The two hexadecimal digits of a byte. -/
def hexByte (byte : UInt8) : String :=
  hexPadded 2 byte.toNat

end Text
end LateBinding
