import LateBinding.Decimal.Shortest

/-!
# The text of a number

Numbers print with the fewest digits that read back.  Small and large magnitudes are written with
a power of ten, all others positionally with at least one digit after the point.
-/

namespace LateBinding
namespace Decimal

/-- The decisions of a format for floating-point numbers. -/
structure NumberFormat where
  /-- The least power of ten that is written positionally. -/
  leastPositional : Int
  /-- The least power of ten above it that is written with an exponent again. -/
  leastExponential : Int
  /-- The mark between digits and exponent. -/
  exponentMark : String
  /-- The text of what is not a number. -/
  notANumber : String
  /-- The text of the infinite magnitude. -/
  infinite : String

/--
Values print positionally from one ten-thousandth to just below ten to the sixteenth, with `e`
before the exponent otherwise.
-/
def valueFormat : NumberFormat where
  leastPositional := -4
  leastExponential := 16
  exponentMark := "e"
  notANumber := "NaN"
  infinite := "inf"

/-- The digit characters of a numeral without trailing zeros. -/
def Numeral.significantDigits (numeral : Numeral) : List Char :=
  ((Nat.toDigits 10 numeral.digits).reverse.dropWhile (· = '0')).reverse

/-- The power of ten of a numeral's first digit. -/
def Numeral.leadingPower (numeral : Numeral) : Int :=
  ((Nat.toDigits 10 numeral.digits).length : Int) - 1 + numeral.exponent

/-- Digits with the point after the place of the power `leading - digits + 1`. -/
def positional (digits : List Char) (leading : Int) : List Char :=
  if leading < 0 then
    '0' :: '.' :: List.replicate (-leading - 1).toNat '0' ++ digits
  else
    let whole := leading.toNat + 1
    if digits.length ≤ whole then
      digits ++ List.replicate (whole - digits.length) '0' ++ ['.', '0']
    else
      digits.take whole ++ '.' :: digits.drop whole

/-- Digits with the point after the first and the power of ten behind them. -/
def exponential (mark : String) (digits : List Char) (leading : Int) : List Char :=
  let fraction := digits.drop 1
  digits.take 1 ++ (if fraction.isEmpty then [] else '.' :: fraction) ++ mark.toList ++
    (toString leading).toList

/-- The text of a positive finite number. -/
def NumberFormat.magnitudeText (format : NumberFormat) (number : Binary64) : List Char :=
  let numeral := shortest number
  let digits := numeral.significantDigits
  let leading := numeral.leadingPower
  if format.leastPositional ≤ leading && leading < format.leastExponential then
    positional digits leading
  else
    exponential format.exponentMark digits leading

/-- The text of a number; what is not a number has no sign. -/
def NumberFormat.text (format : NumberFormat) (number : Binary64) : String :=
  if number.isNaN then format.notANumber
  else
    let sign := if number.isNegative then "-" else ""
    if !number.isFinite then sign ++ format.infinite
    else if number.isZero then sign ++ "0.0"
    else sign ++ String.ofList (format.magnitudeText number)

end Decimal
end LateBinding
