/-!
# Double-precision numbers

A double-precision number is a word of 64 bits: a sign, eleven bits of exponent and fifty-two bits
of fraction.  A finite number is `significand * 2 ^ exponent` up to its sign; all arithmetic on it
is exact arithmetic on naturals.
-/

namespace LateBinding

/-- A double-precision number, given by its bits. -/
structure Binary64 where
  /-- The sign, exponent and fraction, from the highest bit to the lowest. -/
  bits : UInt64
  deriving DecidableEq, Repr, Inhabited

namespace Binary64

/-- Whether the sign bit is set. -/
def isNegative (number : Binary64) : Bool :=
  1 <<< 63 ≤ number.bits.toNat

/-- The eleven bits of the exponent. -/
def exponentField (number : Binary64) : Nat :=
  (number.bits.toNat >>> 52) % (1 <<< 11)

/-- The fifty-two bits of the fraction. -/
def fractionField (number : Binary64) : Nat :=
  number.bits.toNat % (1 <<< 52)

/-- Finite numbers have an exponent field that is not all ones. -/
def isFinite (number : Binary64) : Bool :=
  number.exponentField ≠ 2047

/-- Not a number: the exponent field is all ones and the fraction is not zero. -/
def isNaN (number : Binary64) : Bool :=
  number.exponentField = 2047 && number.fractionField ≠ 0

/-- The two zeros have no bit set but the sign. -/
def isZero (number : Binary64) : Bool :=
  number.bits.toNat % (1 <<< 63) = 0

/-- The significand of a finite number, the hidden bit included. -/
def significand (number : Binary64) : Nat :=
  if number.exponentField = 0 then number.fractionField
  else (1 <<< 52) + number.fractionField

/-- The power of two that a finite number's significand counts. -/
def exponent (number : Binary64) : Int :=
  (max number.exponentField 1 : Nat) - 1075

/-- The number zero. -/
def zero : Binary64 :=
  ⟨0⟩

/--
Numeric equality: nothing equals what is not a number, the two zeros are equal, and all other
numbers are equal to themselves alone.
-/
def equal (left right : Binary64) : Bool :=
  !left.isNaN && !right.isNaN && (left.bits = right.bits || (left.isZero && right.isZero))

end Binary64
end LateBinding
