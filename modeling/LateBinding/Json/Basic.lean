import LateBinding.Text.Hexadecimal

/-!
# JSON values

Trees of JSON.  Numbers and strings keep their literals: the text of a string is written with
escapes between its quotes, and a literal with an escape of half a surrogate pair has no text.
Objects keep the order of their entries and entries of equal keys.
-/

namespace LateBinding

/-- A JSON value. -/
inductive Json where
  /-- The literal `null`. -/
  | null
  /-- A truth value. -/
  | boolean (truth : Bool)
  /-- A number, as it is written. -/
  | number (literal : List Char)
  /-- A string, as it is written between its quotes. -/
  | string (literal : List Char)
  /-- An array. -/
  | array (items : List Json)
  /-- An object; keys are as they are written between their quotes. -/
  | object (entries : List (List Char × Json))
  deriving Repr, Inhabited

namespace Json

/-- The literal of a character inside a string. -/
def escapeCharacter (character : Char) : List Char :=
  if character = '"' then ['\\', '"']
  else if character = '\\' then ['\\', '\\']
  else if character = '\x08' then ['\\', 'b']
  else if character = '\x0c' then ['\\', 'f']
  else if character = '\n' then ['\\', 'n']
  else if character = '\r' then ['\\', 'r']
  else if character = '\t' then ['\\', 't']
  else if character.toNat < 0x20 then
    '\\' :: 'u' :: (Text.hexPadded 4 character.toNat).toList
  else [character]

/-- The literal of a text. -/
def escape (text : List Char) : List Char :=
  text.flatMap escapeCharacter

/-- A natural number in JSON. -/
def ofNat (number : Nat) : Json :=
  .number (toString number).toList

/-- A text in JSON. -/
def ofText (text : String) : Json :=
  .string (escape text.toList)

/-- An object in JSON. -/
def ofEntries (entries : List (String × Json)) : Json :=
  .object (entries.map fun (key, value) => (escape key.toList, value))

/-- The value of a hexadecimal digit of either case. -/
def hexValue? (digit : Char) : Option Nat :=
  if '0' ≤ digit && digit ≤ '9' then some (digit.toNat - '0'.toNat)
  else if 'a' ≤ digit && digit ≤ 'f' then some (digit.toNat - 'a'.toNat + 10)
  else if 'A' ≤ digit && digit ≤ 'F' then some (digit.toNat - 'A'.toNat + 10)
  else none

/-- The unit of 16 bits that four hexadecimal digits denote. -/
def unit? (digit0 digit1 digit2 digit3 : Char) : Option Nat := do
  let value0 ← hexValue? digit0
  let value1 ← hexValue? digit1
  let value2 ← hexValue? digit2
  let value3 ← hexValue? digit3
  return ((value0 * 16 + value1) * 16 + value2) * 16 + value3

/-- The character that a short escape stands for. -/
def shortEscape? (character : Char) : Option Char :=
  if character = '"' || character = '\\' || character = '/' then some character
  else if character = 'b' then some '\x08'
  else if character = 'f' then some '\x0c'
  else if character = 'n' then some '\n'
  else if character = 'r' then some '\r'
  else if character = 't' then some '\t'
  else none

/-- The first half of a surrogate pair. -/
def isHighSurrogate (unit : Nat) : Bool :=
  0xD800 ≤ unit && unit < 0xDC00

/-- The second half of a surrogate pair. -/
def isLowSurrogate (unit : Nat) : Bool :=
  0xDC00 ≤ unit && unit < 0xE000

/-- The character of a surrogate pair. -/
def ofSurrogates (high low : Nat) : Char :=
  Char.ofNat (0x10000 + (high - 0xD800) * 0x400 + (low - 0xDC00))

/-- The text of a string's literal. -/
def unescape? : List Char → Option (List Char)
  | [] => some []
  | '\\' :: 'u' :: digit0 :: digit1 :: digit2 :: digit3 :: rest =>
      match unit? digit0 digit1 digit2 digit3 with
      | none => none
      | some unit =>
          if isHighSurrogate unit then
            match rest with
            | '\\' :: 'u' :: digit4 :: digit5 :: digit6 :: digit7 :: after =>
                match unit? digit4 digit5 digit6 digit7 with
                | none => none
                | some low =>
                    if isLowSurrogate low then
                      (unescape? after).map (ofSurrogates unit low :: ·)
                    else none
            | _ => none
          else if isLowSurrogate unit then none
          else (unescape? rest).map (Char.ofNat unit :: ·)
  | '\\' :: character :: rest =>
      match shortEscape? character with
      | none => none
      | some escaped => (unescape? rest).map (escaped :: ·)
  | character :: rest => (unescape? rest).map (character :: ·)

/-- The text of a string. -/
def text? : Json → Option String
  | string literal => (unescape? literal).map String.ofList
  | _ => none

end Json
end LateBinding
