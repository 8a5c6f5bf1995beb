import LateBinding.Decimal.Reader
import LateBinding.Value.Basic

/-!
# Arguments written as text

The value that one argument of a command line denotes.  The keywords come first, then integers
from the narrow to the wide, then decimal fractions, then quoted texts; anything else is a text
and keeps its white space.
-/

namespace LateBinding

open Text Decimal

/-- The value of an integer that fits 32 bits, or else 64 bits. -/
def Value.ofInteger? (number : Int) : Option Value :=
  if Int32.minValue.toInt ≤ number && number ≤ Int32.maxValue.toInt then some (.int (Int32.ofInt number))
  else if Int64.minValue.toInt ≤ number && number ≤ Int64.maxValue.toInt then some (.long (Int64.ofInt number))
  else none

/-- The text between two double quotes. -/
def unquoted? : List Char → Option (List Char)
  | '"' :: rest => if rest.getLast? = some '"' then some rest.dropLast else none
  | _ => none

/-- A decimal fraction is told from other texts by a point or an exponent mark. -/
def looksFractional (text : List Char) : Bool :=
  text.any fun character => character = '.' || character = 'e' || character = 'E'

/-- The number that a text denotes, if any. -/
def Value.number? (text : List Char) : Option Value :=
  ((integer? text).bind Value.ofInteger?).or
    (if looksFractional text then (finite? text).map Value.double else none)

/-- The value that one argument denotes. -/
def Value.ofArgument (argument : String) : Value :=
  let trimmed := trim argument.toList
  if trimmed = "null".toList then .null
  else if trimmed = "true".toList then .boolean true
  else if trimmed = "false".toList then .boolean false
  else
    match Value.number? trimmed with
    | some number => number
    | none =>
        match unquoted? trimmed with
        | some text => .string (String.ofList text)
        | none => .string argument

end LateBinding
