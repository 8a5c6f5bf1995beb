import LateBinding.Json.Basic

/-!
# Printing JSON

JSON on one line without blanks, and JSON with one item per line and two blanks per level.
-/

namespace LateBinding
namespace Json

/-- A literal between quotes. -/
def quotedLiteral (literal : List Char) : String :=
  "\"" ++ String.ofList literal ++ "\""

mutual

/-- JSON on one line. -/
def compact : Json → String
  | null => "null"
  | boolean truth => if truth then "true" else "false"
  | number literal => String.ofList literal
  | string literal => quotedLiteral literal
  | array items => "[" ++ String.intercalate "," (compactItems items) ++ "]"
  | object entries => "\x7b" ++ String.intercalate "," (compactEntries entries) ++ "\x7d"

/-- The items of an array on one line. -/
def compactItems : List Json → List String
  | [] => []
  | item :: rest => compact item :: compactItems rest

/-- The entries of an object on one line. -/
def compactEntries : List (List Char × Json) → List String
  | [] => []
  | (key, value) :: rest => (quotedLiteral key ++ ":" ++ compact value) :: compactEntries rest

end

/-- A line break and the blanks of a level. -/
def lineBreak (level : Nat) : String :=
  "\n" ++ String.ofList (List.replicate (2 * level) ' ')

/-- Items between brackets, one a line, one level deeper than the brackets. -/
def bracketed (opening closing : String) (level : Nat) (items : List String) : String :=
  if items.isEmpty then opening ++ closing
  else
    opening ++ lineBreak (level + 1) ++
      String.intercalate ("," ++ lineBreak (level + 1)) items ++ lineBreak level ++ closing

mutual

/-- JSON with one item per line, for a value at a level. -/
def indented (level : Nat) : Json → String
  | null => "null"
  | boolean truth => if truth then "true" else "false"
  | number literal => String.ofList literal
  | string literal => quotedLiteral literal
  | array items => bracketed "[" "]" level (indentedItems (level + 1) items)
  | object entries => bracketed "\x7b" "\x7d" level (indentedEntries (level + 1) entries)

/-- The items of an array at a level. -/
def indentedItems (level : Nat) : List Json → List String
  | [] => []
  | item :: rest => indented level item :: indentedItems level rest

/-- The entries of an object at a level. -/
def indentedEntries (level : Nat) : List (List Char × Json) → List String
  | [] => []
  | (key, value) :: rest =>
      (quotedLiteral key ++ ": " ++ indented level value) :: indentedEntries level rest

end

/-- JSON with one item per line. -/
def pretty (json : Json) : String :=
  json.indented 0

end Json
end LateBinding
