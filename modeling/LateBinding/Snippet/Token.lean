import LateBinding.Decimal.Reader
import LateBinding.Text.WhiteSpace

/-!
# Tokens of snippets

A snippet is cut into tokens from left to right, each as long as possible.  White space separates
tokens and is not part of any.  A text that continues with no token is refused at the offset where
the token should start.
-/

namespace LateBinding

open Text

/-- A token of a snippet. -/
inductive Token where
  /-- A name, which may contain points. -/
  | identifier (name : String)
  /-- A parameter's number behind a dollar sign. -/
  | parameter (number : Nat)
  /-- A text between double quotes, its escapes resolved. -/
  | string (text : String)
  /-- An integer. -/
  | int (number : Int32)
  /-- `+` -/
  | plus
  /-- `=` -/
  | equals
  /-- `(` -/
  | openParenthesis
  /-- `)` -/
  | closeParenthesis
  /-- `;` -/
  | semicolon
  /-- The brace that opens a body. -/
  | openBrace
  /-- The brace that closes a body. -/
  | closeBrace
  deriving DecidableEq, Repr, Inhabited

namespace Token

/-- The token that a single punctuation character is. -/
def ofPunctuation? (character : Char) : Option Token :=
  if character = '+' then some plus
  else if character = '=' then some equals
  else if character = '(' then some openParenthesis
  else if character = ')' then some closeParenthesis
  else if character = ';' then some semicolon
  else if character = '\x7b' then some openBrace
  else if character = '\x7d' then some closeBrace
  else none

/-- An identifier starts with an alphabetic character or an underscore. -/
def startsIdentifier (character : Char) : Bool :=
  isAlphabetic character || character = '_'

/-- An identifier continues with alphanumeric characters, underscores and points. -/
def continuesIdentifier (character : Char) : Bool :=
  isAlphanumeric character || character = '_' || character = '.'

/-- The number of a parameter, from one to the largest word of 64 bits. -/
def parameterNumber? (digits : List Char) : Option Nat :=
  (Decimal.natural? digits).bind fun number =>
    if 0 < number && number < UInt64.size then some number else none

/-- A non-negative integer of 32 bits. -/
def integerLiteral? (digits : List Char) : Option Int32 :=
  (Decimal.natural? digits).bind fun number =>
    if number < 1 <<< 31 then some (Int32.ofNat number) else none

/--
The text up to the closing quote and what follows the quote.  A backslash is followed by `n`, `t`,
a quote or a backslash.
-/
def stringLiteral? : List Char → Option (List Char × List Char)
  | [] => none
  | '"' :: rest => some ([], rest)
  | '\\' :: 'n' :: rest => (stringLiteral? rest).map fun (text, after) => ('\n' :: text, after)
  | '\\' :: 't' :: rest => (stringLiteral? rest).map fun (text, after) => ('\t' :: text, after)
  | '\\' :: '"' :: rest => (stringLiteral? rest).map fun (text, after) => ('"' :: text, after)
  | '\\' :: '\\' :: rest => (stringLiteral? rest).map fun (text, after) => ('\\' :: text, after)
  | '\\' :: _ => none
  | character :: rest =>
      (stringLiteral? rest).map fun (text, after) => (character :: text, after)

/-- The token that a text starts with and the text after it. -/
def first? (character : Char) (rest : List Char) : Option (Token × List Char) :=
  match ofPunctuation? character with
  | some token => some (token, rest)
  | none =>
      if character = '$' then
        (parameterNumber? (rest.takeWhile isAsciiDigit)).map fun number =>
          (parameter number, rest.dropWhile isAsciiDigit)
      else if character = '"' then
        (stringLiteral? rest).map fun (text, after) => (string (String.ofList text), after)
      else if isAsciiDigit character then
        (integerLiteral? (character :: rest.takeWhile isAsciiDigit)).map fun number =>
          (int number, rest.dropWhile isAsciiDigit)
      else if startsIdentifier character then
        some (identifier (String.ofList (character :: rest.takeWhile continuesIdentifier)),
          rest.dropWhile continuesIdentifier)
      else none

theorem length_dropWhile_le
    (belongs : Char → Bool)
    (text : List Char) :
    (text.dropWhile belongs).length ≤ text.length :=
  (List.dropWhile_sublist belongs).length_le

/-- What follows a text literal is shorter than the literal with it. -/
theorem length_of_stringLiteral?
    {source text after : List Char}
    (read : stringLiteral? source = some (text, after)) :
    after.length < source.length := by
  fun_induction stringLiteral? source generalizing text after with
  | case1 => simp at read
  | case2 rest => simp_all
  | case7 => simp at read
  | case3 rest ih | case4 rest ih | case5 rest ih | case6 rest ih | case8 _ rest _ _ _ _ _ _ ih =>
      simp only [Option.map_eq_some_iff, Prod.exists, Prod.mk.injEq] at read
      obtain ⟨inner, behind, found, _, rfl⟩ := read
      have := ih found
      simp only [List.length_cons]
      omega

/-- What follows the first token is no longer than what follows its first character. -/
theorem length_of_first?
    {character : Char}
    {rest after : List Char}
    {token : Token}
    (read : first? character rest = some (token, after)) :
    after.length ≤ rest.length := by
  have digits := length_dropWhile_le isAsciiDigit rest
  have letters := length_dropWhile_le continuesIdentifier rest
  unfold first? at read
  split at read
  · simp_all
  · split at read
    · simp only [Option.map_eq_some_iff, Prod.mk.injEq] at read
      obtain ⟨_, _, _, rfl⟩ := read
      exact digits
    · split at read
      · simp only [Option.map_eq_some_iff, Prod.exists, Prod.mk.injEq] at read
        obtain ⟨_, _, found, _, rfl⟩ := read
        exact Nat.le_of_lt (length_of_stringLiteral? found)
      · split at read
        · simp only [Option.map_eq_some_iff, Prod.mk.injEq] at read
          obtain ⟨_, _, _, rfl⟩ := read
          exact digits
        · split at read
          · simp only [Option.some.injEq, Prod.mk.injEq] at read
            obtain ⟨_, rfl⟩ := read
            exact letters
          · simp at read

end Token

/-- A token with the number of characters in front of it. -/
structure LocatedToken where
  /-- The token. -/
  token : Token
  /-- The offset of its first character. -/
  offset : Nat
  deriving DecidableEq, Repr, Inhabited

/-- The tokens of a text that starts at an offset, or the offset at which no token starts. -/
def tokensFrom (offset : Nat) (text : List Char) : Except Nat (List LocatedToken) :=
  match text with
  | [] => .ok []
  | character :: rest =>
      if isWhiteSpace character then tokensFrom (offset + 1) rest
      else
        match _read : Token.first? character rest with
        | none => .error offset
        | some (token, after) =>
            (tokensFrom (offset + (rest.length + 1 - after.length)) after).map
              (⟨token, offset⟩ :: ·)
termination_by text.length
decreasing_by
  · simp
  · have := Token.length_of_first? _read
    simp only [List.length_cons]
    omega

/-- The tokens of a text, or the offset at which no token starts. -/
def tokens (text : List Char) : Except Nat (List LocatedToken) :=
  tokensFrom 0 text

end LateBinding
