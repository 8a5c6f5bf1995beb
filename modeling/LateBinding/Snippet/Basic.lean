import LateBinding.Snippet.Parser

/-!
# Snippets

The body of a member, given as statements or as the text of statements.  A text that is not a body
is answered with the piece of it that is not understood: the statement around the place where
reading stopped.
-/

namespace LateBinding

open Text

/-- Statements end with a semicolon, and the first one may follow an opening brace. -/
def endsPiece (character : Char) : Bool :=
  character = ';' || character = '\x7b'

/-- The text up to the first semicolon, the semicolon included, or all of it. -/
def throughSemicolon : List Char → List Char
  | [] => []
  | character :: rest =>
      if character = ';' then [';'] else character :: throughSemicolon rest

/--
The statement around an offset: from behind the last semicolon or opening brace in front of the
offset through the next semicolon.  If that is blank it is the whole text.
-/
def pieceAround (text : List Char) (offset : Nat) : List Char :=
  let front := ((text.take offset).reverse.takeWhile fun character => !endsPiece character).reverse
  let piece := trim (front ++ throughSemicolon (text.drop offset))
  if piece.isEmpty then trim text else piece

/-- The offset of the first token, or the end of the text. -/
def offsetOf (text : List Char) : List LocatedToken → Nat
  | [] => text.length
  | located :: _ => located.offset

/-- The statements of a text, or the offset at which reading stopped. -/
def parseCharacters (text : List Char) : Except Nat (List Statement) :=
  match tokens text with
  | .error offset => .error offset
  | .ok located =>
      match parseBody located with
      | .error rest => .error (offsetOf text rest)
      | .ok statements => .ok statements

/-- The statements of a snippet, or the piece of it that is not understood. -/
def parseSnippet (source : String) : Except String (List Statement) :=
  let text := source.toList
  match parseCharacters text with
  | .error offset => .error (String.ofList (pieceAround text offset))
  | .ok statements => .ok statements

/-- The body of a member. -/
inductive Body where
  /-- A body given by its statements. -/
  | statements (statements : List Statement)
  /-- A body given as text. -/
  | source (text : String)
  deriving DecidableEq, Repr, Inhabited

/-- The statements of a body, or the piece of its text that is not understood. -/
def Body.parse : Body → Except String (List Statement)
  | .statements given => .ok given
  | .source text => parseSnippet text

end LateBinding
