import LateBinding.Json.Basic
import LateBinding.Text.Identifier

/-!
# Reading JSON

The value that a text denotes.  Escapes inside strings are checked but not resolved.
-/

namespace LateBinding
namespace Json

open Text

/-- The blanks between the parts of JSON. -/
def isBlank (character : Char) : Bool :=
  character = ' ' || character = '\t' || character = '\n' || character = '\r'

/-- A text without the blanks in front of it. -/
def skipBlanks (text : List Char) : List Char :=
  text.dropWhile isBlank

/-- The literal of a string up to its closing quote, and the text behind the quote. -/
def readString? : List Char → Option (List Char × List Char)
  | [] => none
  | '"' :: rest => some ([], rest)
  | '\\' :: 'u' :: digit0 :: digit1 :: digit2 :: digit3 :: rest =>
      if (unit? digit0 digit1 digit2 digit3).isSome then
        (readString? rest).map fun (literal, after) =>
          ('\\' :: 'u' :: digit0 :: digit1 :: digit2 :: digit3 :: literal, after)
      else none
  | '\\' :: character :: rest =>
      if (shortEscape? character).isSome then
        (readString? rest).map fun (literal, after) => ('\\' :: character :: literal, after)
      else none
  | character :: rest =>
      if character.toNat < 0x20 || character = '\\' then none
      else (readString? rest).map fun (literal, after) => (character :: literal, after)

/-- One or more digits in front of a text. -/
def readDigits? (text : List Char) : Option (List Char × List Char) :=
  let digits := text.takeWhile isAsciiDigit
  if digits.isEmpty then none else some (digits, text.dropWhile isAsciiDigit)

/-- The whole part of a number: a zero alone, or digits of which the first is not zero. -/
def readWhole? : List Char → Option (List Char × List Char)
  | '0' :: rest => some (['0'], rest)
  | text => readDigits? text

/-- The fraction of a number, if a point starts one. -/
def readFraction? : List Char → Option (List Char × List Char)
  | '.' :: rest => (readDigits? rest).map fun (digits, after) => ('.' :: digits, after)
  | text => some ([], text)

/-- A sign in front of an exponent, if there is one. -/
def readSign : List Char → List Char × List Char
  | '+' :: rest => (['+'], rest)
  | '-' :: rest => (['-'], rest)
  | text => ([], text)

/-- The exponent of a number, if a mark starts one. -/
def readExponent? : List Char → Option (List Char × List Char)
  | mark :: rest =>
      if mark = 'e' || mark = 'E' then
        let (sign, unsigned) := readSign rest
        (readDigits? unsigned).map fun (digits, after) => (mark :: sign ++ digits, after)
      else some ([], mark :: rest)
  | [] => some ([], [])

/-- A number. -/
def readNumber? (text : List Char) : Option (List Char × List Char) := do
  let (sign, unsigned) :=
    match text with
    | '-' :: rest => (['-'], rest)
    | _ => ([], text)
  let (whole, rest) ← readWhole? unsigned
  let (fraction, rest) ← readFraction? rest
  let (exponent, rest) ← readExponent? rest
  return (sign ++ whole ++ fraction ++ exponent, rest)

/-- A key with the colon behind it. -/
def readKey? (text : List Char) : Option (List Char × List Char) :=
  match skipBlanks text with
  | '"' :: rest => do
      let (key, rest) ← readString? rest
      match skipBlanks rest with
      | ':' :: rest => some (key, rest)
      | _ => none
  | _ => none

mutual

/-- A value, read in at most so many steps. -/
def readValue? : Nat → List Char → Option (Json × List Char)
  | 0, _ => none
  | steps + 1, text =>
      match skipBlanks text with
      | 'n' :: 'u' :: 'l' :: 'l' :: rest => some (null, rest)
      | 't' :: 'r' :: 'u' :: 'e' :: rest => some (boolean true, rest)
      | 'f' :: 'a' :: 'l' :: 's' :: 'e' :: rest => some (boolean false, rest)
      | '"' :: rest => (readString? rest).map fun (literal, after) => (string literal, after)
      | '[' :: rest =>
          match skipBlanks rest with
          | ']' :: after => some (array [], after)
          | items => (readItems? steps items).map fun (items, after) => (array items, after)
      | '\x7b' :: rest =>
          match skipBlanks rest with
          | '\x7d' :: after => some (object [], after)
          | entries =>
              (readEntries? steps entries).map fun (entries, after) => (object entries, after)
      | rest => (readNumber? rest).map fun (literal, after) => (number literal, after)

/-- The items of an array up to its closing bracket, read in at most so many steps. -/
def readItems? : Nat → List Char → Option (List Json × List Char)
  | 0, _ => none
  | steps + 1, text =>
      match readValue? steps text with
      | none => none
      | some (item, rest) =>
          match skipBlanks rest with
          | ']' :: after => some ([item], after)
          | ',' :: more =>
              (readItems? steps more).map fun (items, after) => (item :: items, after)
          | _ => none

/-- The entries of an object up to its closing brace, read in at most so many steps. -/
def readEntries? : Nat → List Char → Option (List (List Char × Json) × List Char)
  | 0, _ => none
  | steps + 1, text =>
      match readKey? text with
      | none => none
      | some (key, rest) =>
          match readValue? steps rest with
          | none => none
          | some (value, rest) =>
              match skipBlanks rest with
              | '\x7d' :: after => some ([(key, value)], after)
              | ',' :: more =>
                  (readEntries? steps more).map fun (entries, after) =>
                    ((key, value) :: entries, after)
              | _ => none

end

/-- The value of a text; every step takes a character, or reads a value that does. -/
def parse? (text : String) : Option Json :=
  let characters := text.toList
  match readValue? (2 * characters.length + 1) characters with
  | some (json, rest) => if (skipBlanks rest).isEmpty then some json else none
  | none => none

end Json
end LateBinding
