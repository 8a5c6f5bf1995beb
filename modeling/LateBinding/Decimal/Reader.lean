import LateBinding.Decimal.Binary64
import LateBinding.Text.Identifier

/-!
# Reading numbers

Integers and decimal fractions written in ASCII digits.  A fraction becomes the nearest
double-precision number, the one with the even significand when two are equally near.
-/

namespace LateBinding
namespace Decimal

open Text

/-- The value of one decimal digit. -/
def digitValue (digit : Char) : Nat :=
  digit.toNat - '0'.toNat

/-- The natural number that a list of decimal digits denotes. -/
def naturalOfDigits (digits : List Char) : Nat :=
  digits.foldl (fun number digit => 10 * number + digitValue digit) 0

/-- A non-empty text of decimal digits alone. -/
def natural? (text : List Char) : Option Nat :=
  if text ≠ [] && text.all isAsciiDigit then some (naturalOfDigits text) else none

/-- A sign in front of a text: whether it is a minus, and the text behind it. -/
def splitSign : List Char → Bool × List Char
  | '-' :: rest => (true, rest)
  | '+' :: rest => (false, rest)
  | text => (false, text)

/-- An integer with an optional sign. -/
def integer? (text : List Char) : Option Int :=
  let (negative, digits) := splitSign text
  (natural? digits).map fun magnitude => if negative then -(magnitude : Int) else magnitude

/-- The quotient rounded to the nearest natural number, to the even one of two. -/
def roundedQuotient (numerator denominator : Nat) : Nat :=
  let quotient := numerator / denominator
  let twice := 2 * (numerator % denominator)
  if twice < denominator then quotient
  else if denominator < twice then quotient + 1
  else quotient + quotient % 2

/--
The bits of the number nearest to a positive fraction.  The significand is the fraction in units
of the power of two that leaves it 53 bits, or of the least power there is; counting the exponent
on top of the significand carries into the exponent when rounding gives a 54th bit.
-/
def bitsOfFraction (numerator denominator : Nat) : Nat :=
  let estimate : Int := (numerator.log2 : Int) - denominator.log2
  let reached := denominator <<< estimate.toNat ≤ numerator <<< (-estimate).toNat
  let leading := if reached then estimate else estimate - 1
  let exponent := max (leading - 52) (-1074)
  let significand :=
    roundedQuotient (numerator <<< (-exponent).toNat) (denominator <<< exponent.toNat)
  ((exponent + 1074).toNat <<< 52) + significand

/-- The bits of positive infinity. -/
def infinityBits : Nat :=
  2047 <<< 52

/--
The finite number nearest to `digits * 10 ^ exponent`, if there is one.  A value of more than 310
places before the point is beyond every finite number, and one with 400 zeros behind the point is
nearer to zero than to any other.
-/
def nearest? (negative : Bool) (digits : List Char) (exponent : Int) : Option Binary64 :=
  let significant := digits.dropWhile (· = '0')
  let places := (significant.length : Int) + exponent
  let signBit := if negative then 1 <<< 63 else 0
  if significant.isEmpty || places < -400 then some ⟨UInt64.ofNat signBit⟩
  else if 310 < places then none
  else
    let bits :=
      bitsOfFraction (naturalOfDigits significant * Nat.pow 10 exponent.toNat)
        (Nat.pow 10 (-exponent).toNat)
    if bits < infinityBits then some ⟨UInt64.ofNat (signBit + bits)⟩ else none

/-- The exponent part of a fraction: nothing, or a mark and an integer. -/
def exponentPart? : List Char → Option Int
  | [] => some 0
  | mark :: rest => if mark = 'e' || mark = 'E' then integer? rest else none

/--
A decimal fraction: a sign, digits, a point and digits, an exponent.  All parts but one digit
before the exponent are optional.  Fractions beyond the finite numbers are refused.
-/
def finite? (text : List Char) : Option Binary64 := do
  let (negative, unsigned) := splitSign text
  let whole := unsigned.takeWhile isAsciiDigit
  let (fraction, rest) :=
    match unsigned.dropWhile isAsciiDigit with
    | '.' :: behind => (behind.takeWhile isAsciiDigit, behind.dropWhile isAsciiDigit)
    | rest => ([], rest)
  if whole.isEmpty && fraction.isEmpty then none
  else
    let exponent ← exponentPart? rest
    nearest? negative (whole ++ fraction) (exponent - fraction.length)

end Decimal
end LateBinding
