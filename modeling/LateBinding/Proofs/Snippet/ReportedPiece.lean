import LateBinding.Proofs.Snippet.Grammar
import LateBinding.Proofs.Snippet.Relocation
import LateBinding.Proofs.Snippet.Spelling
import LateBinding.Proofs.Text.Slices
import LateBinding.Snippet.Basic

/-!
# The reported piece

A snippet that is not understood is answered with a piece of it, which is cut out between positions.  Here
tokens have the positions at which they start, counted in bytes, and each cut can fail.  No cut fails, since
reading stops where a token starts or at the end, and semicolons and braces take one byte.  What is cut out is
the piece that the reader of characters reports.  It is a trimmed piece of the snippet that is not empty and
holds the place where reading stopped.
-/

namespace LateBinding

open Text
open String (utf8Len)

/-! ## Reading by position -/

/-- The tokens of a text that starts at a position, or the position at which no token starts. -/
def positionedTokens (position : Nat) (text : List Char) : Except Nat (List LocatedToken) :=
  match text with
  | [] => .ok []
  | character :: rest =>
      if isWhiteSpace character then positionedTokens (position + character.utf8Size) rest
      else
        match _read : Token.first? character rest with
        | none => .error position
        | some (token, after) =>
            (positionedTokens (position + (utf8Len (character :: rest) - utf8Len after)) after).map
              (⟨token, position⟩ :: ·)
termination_by text.length
decreasing_by
  · simp
  · have := Token.length_of_first? _read
    simp only [List.length_cons]
    omega

/-- The position of the first token, or the end of the source. -/
def positionOf (source : String) : List LocatedToken → Nat
  | [] => source.utf8ByteSize
  | located :: _ => located.offset

/-- The statements of a source, or the position at which reading stopped. -/
def parsePositioned (source : String) : Except Nat (List Statement) :=
  match positionedTokens 0 source.toList with
  | .error position => .error position
  | .ok located =>
      match parseBody located with
      | .error rest => .error (positionOf source rest)
      | .ok statements => .ok statements

/-- The statement around a position, cut out of the source, unless a cut fails. -/
def cutPiece (source : String) (position : Nat) : Option String := do
  let stop := min position source.utf8ByteSize
  let front ← slice? source 0 stop
  let start := (lastPosition? endsPiece front.toList).elim 0 (· + 1)
  let rear ← slice? source stop source.utf8ByteSize
  let finish := (firstPosition? (· = ';') rear.toList).elim source.utf8ByteSize (stop + · + 1)
  let statement ← slice? source start finish
  let piece := trimString statement
  return if piece.isEmpty then trimString source else piece

/-! ## Positions and offsets -/

/-- The position of the character with so many characters in front of it. -/
def positionAt (text : List Char) (offset : Nat) : Nat :=
  utf8Len (text.take offset)

theorem positionAt_length (front rear : List Char) :
    positionAt (front ++ rear) front.length = utf8Len front := by
  rw [positionAt, List.take_left]

namespace Token

theorem isSuffix_of_stringLiteral?
    {source text after : List Char}
    (read : stringLiteral? source = some (text, after)) :
    after <:+ source := by
  fun_induction stringLiteral? source generalizing text after with
  | case1 | case7 => exact absurd read.symm (Option.some_ne_none _)
  | case2 rest =>
      obtain ⟨rfl, rfl⟩ := Prod.mk.inj (Option.some.inj read)
      exact List.suffix_cons _ _
  | case3 rest ih | case4 rest ih | case5 rest ih | case6 rest ih =>
      obtain ⟨⟨inner, behind⟩, found, same⟩ := Option.map_eq_some_iff.mp read
      obtain ⟨rfl, rfl⟩ := Prod.mk.inj same
      exact (ih found).trans ((List.suffix_cons _ _).trans (List.suffix_cons _ _))
  | case8 _ rest _ _ _ _ _ _ ih =>
      obtain ⟨⟨inner, behind⟩, found, same⟩ := Option.map_eq_some_iff.mp read
      obtain ⟨rfl, rfl⟩ := Prod.mk.inj same
      exact (ih found).trans (List.suffix_cons _ _)

/-- What follows a token stands at the end of the text. -/
theorem isSuffix_of_first?
    {character : Char}
    {rest after : List Char}
    {token : Token}
    (read : first? character rest = some (token, after)) :
    after <:+ rest := by
  unfold first? at read
  split at read
  · obtain ⟨_, rfl⟩ := Prod.mk.inj (Option.some.inj read)
    exact List.suffix_refl _
  split at read
  · obtain ⟨number, _, same⟩ := Option.map_eq_some_iff.mp read
    obtain ⟨_, rfl⟩ := Prod.mk.inj same
    exact List.dropWhile_suffix _
  split at read
  · obtain ⟨⟨text, behind⟩, found, same⟩ := Option.map_eq_some_iff.mp read
    obtain ⟨_, rfl⟩ := Prod.mk.inj same
    exact isSuffix_of_stringLiteral? found
  split at read
  · obtain ⟨number, _, same⟩ := Option.map_eq_some_iff.mp read
    obtain ⟨_, rfl⟩ := Prod.mk.inj same
    exact List.dropWhile_suffix _
  split at read
  · obtain ⟨_, rfl⟩ := Prod.mk.inj (Option.some.inj read)
    exact List.dropWhile_suffix _
  · nomatch read

end Token

/-- Counting bytes instead of characters gives the same tokens at their positions. -/
theorem positionedTokens_eq
    {whole front text : List Char}
    {offset : Nat}
    (counted : front.length = offset)
    (parts : whole = front ++ text) :
    positionedTokens (utf8Len front) text =
      ((tokensFrom offset text).map (relocateAll (positionAt whole))).mapError (positionAt whole) := by
  fun_induction tokensFrom offset text generalizing front with
  | case1 =>
      rw [positionedTokens]
      rfl
  | case2 offset character rest white inductionHypothesis =>
      rw [positionedTokens, if_pos white]
      have next := @inductionHypothesis (front ++ [character]) (by simp [counted]) (by simp [parts])
      rw [String.utf8Len_append, String.utf8Len_cons, String.utf8Len_nil, Nat.zero_add] at next
      exact next
  | case3 offset character rest visible refused =>
      rw [positionedTokens, if_neg visible]
      subst counted parts
      split
      · exact congrArg Except.error (positionAt_length _ _).symm
      · next _ _ read => nomatch refused.symm.trans read
  | case4 offset character rest visible token after read inductionHypothesis =>
      obtain ⟨consumed, rfl⟩ := Token.isSuffix_of_first? read
      have next := @inductionHypothesis (front ++ character :: consumed)
        (by simp [counted]; omega) (by simp [parts])
      rw [positionedTokens, if_neg visible]
      split
      · next refused => nomatch refused.symm.trans read
      next _ _ reread =>
      obtain ⟨rfl, rfl⟩ := Prod.mk.inj (Option.some.inj (read.symm.trans reread))
      have moved : utf8Len front + (utf8Len (character :: (consumed ++ after)) - utf8Len after) =
          utf8Len (front ++ character :: consumed) := by
        simp only [String.utf8Len_append, String.utf8Len_cons]
        omega
      subst counted parts
      rw [moved, next]
      cases tokensFrom (front.length + ((consumed ++ after).length + 1 - after.length)) after with
      | error fault => rfl
      | ok later =>
          refine congrArg (fun position => Except.ok (⟨token, position⟩ :: relocateAll _ later)) ?_
          exact (positionAt_length _ _).symm

/-- Reading by position succeeds and fails as reading by characters does, and stops at the same place. -/
theorem parsePositioned_eq (source : String) :
    parsePositioned source =
      (parseCharacters source.toList).mapError (positionAt source.toList) := by
  have cut : positionedTokens 0 source.toList = _ := @positionedTokens_eq _ [] _ 0 rfl rfl
  rw [parsePositioned, cut, parseCharacters, tokens]
  cases tokensFrom 0 source.toList with
  | error fault => rfl
  | ok located =>
      change (match parseBody (relocateAll _ located) with
        | .error rest => Except.error (positionOf source rest)
        | .ok statements => .ok statements) = _
      rw [parseBody_relocateAll]
      dsimp only
      cases parseBody located with
      | ok statements => rfl
      | error rest =>
          cases rest with
          | cons first others => rfl
          | nil =>
              refine congrArg Except.error ?_
              rw [offsetOf, positionAt, List.take_length, String.utf8Len_toList]
              rfl

/-! ## Where reading stops -/

/-- At an offset of a text stands a character that is not white space. -/
def StartsAt (text : List Char) (offset : Nat) : Prop :=
  ∃ front character rear,
    text = front ++ character :: rear ∧ front.length = offset ∧ isWhiteSpace character = false

/-- Tokens start at visible characters, and so does what is no token. -/
theorem startsAt_of_tokensFrom
    {whole front text : List Char}
    {offset : Nat}
    (counted : front.length = offset)
    (parts : whole = front ++ text) :
    match tokensFrom offset text with
    | .error fault => StartsAt whole fault
    | .ok located => ∀ found ∈ located, StartsAt whole found.offset := by
  fun_induction tokensFrom offset text generalizing front with
  | case1 => nofun
  | case2 offset character rest white inductionHypothesis =>
      exact @inductionHypothesis (front ++ [character]) (by simp [counted]) (by simp [parts])
  | case3 offset character rest visible refused =>
      exact ⟨front, character, rest, parts, counted, Bool.of_not_eq_true visible⟩
  | case4 offset character rest visible token after read inductionHypothesis =>
      obtain ⟨consumed, rfl⟩ := Token.isSuffix_of_first? read
      have next := @inductionHypothesis (front ++ character :: consumed)
        (by simp [counted]; omega) (by simp [parts])
      cases later : tokensFrom (offset + ((consumed ++ after).length + 1 - after.length)) after with
      | error fault =>
          rw [later] at next
          exact next
      | ok located =>
          rw [later] at next
          exact List.forall_mem_cons.mpr
            ⟨⟨front, character, _, parts, counted, Bool.of_not_eq_true visible⟩, next⟩

/-- Reading stops at the end or at a visible character. -/
theorem stops_of_parseCharacters
    {text : List Char}
    {fault : Nat}
    (failed : parseCharacters text = .error fault) :
    fault = text.length ∨ StartsAt text fault := by
  have starts := @startsAt_of_tokensFrom text [] text 0 rfl rfl
  rw [parseCharacters, tokens] at failed
  cases cut : tokensFrom 0 text with
  | error stop =>
      rw [cut] at starts failed
      obtain rfl := Except.error.inj failed
      exact .inr starts
  | ok located =>
      rw [cut] at starts failed
      dsimp only at failed
      split at failed
      · next rest refused =>
        obtain rfl := Except.error.inj failed
        cases rest with
        | nil => exact .inl rfl
        | cons first others =>
            obtain ⟨found, among, same⟩ :=
              List.mem_map.mp (offset_mem_of_parseBody refused List.mem_cons_self)
            exact .inr (show StartsAt text first.offset from same ▸ starts found among)
      · nomatch failed

/-- A blank text is understood, so what is refused has a visible character. -/
theorem exists_visible_of_parseCharacters
    {text : List Char}
    {fault : Nat}
    (failed : parseCharacters text = .error fault) :
    ∃ character ∈ text, isWhiteSpace character = false := by
  by_contra blank
  have white : IsGap text := fun character among =>
    Bool.of_not_eq_false fun visible => blank ⟨character, among, visible⟩
  have cut : tokens text = .ok [] := by
    rw [tokens, ← List.append_nil text, tokensFrom_gap white, tokensFrom]
  rw [parseCharacters, cut] at failed
  have understood : parseBody [] = .ok [] := parseItems_of_itemsForm .nil rfl
  dsimp only at failed
  rw [understood] at failed
  exact absurd failed.symm (Outcome.error_ne_ok _ _)

/-! ## The statement around a position -/

/-- The text behind the last character that ends a piece. -/
def lastSegment (text : List Char) : List Char :=
  (text.reverse.takeWhile fun character => !endsPiece character).reverse

theorem pieceAround_append (front rear : List Char) :
    pieceAround (front ++ rear) front.length =
      if (trim (lastSegment front ++ throughSemicolon rear)).isEmpty then trim (front ++ rear)
      else trim (lastSegment front ++ throughSemicolon rear) := by
  rw [pieceAround, List.take_left, List.drop_left]
  rfl

/-- What ends a piece takes one byte. -/
theorem utf8Size_of_endsPiece {character : Char} (ends : endsPiece character = true) :
    character.utf8Size = 1 := by
  rcases Bool.or_eq_true_iff.mp ends with semicolon | brace
  · rw [of_decide_eq_true semicolon]
    rfl
  · rw [of_decide_eq_true brace]
    rfl

theorem endsPiece_of_mem_lastSegment
    {text : List Char}
    {character : Char}
    (among : character ∈ lastSegment text) :
    endsPiece character = false := by
  simpa using List.mem_takeWhile_imp (List.mem_reverse.mp among)

/-- The last segment starts behind the last character that ends a piece. -/
theorem exists_lastSegment (text : List Char) :
    ∃ before, text = before ++ lastSegment text ∧
      (lastPosition? endsPiece text).elim 0 (· + 1) = utf8Len before := by
  have parts : text =
      (text.reverse.dropWhile fun character => !endsPiece character).reverse ++ lastSegment text := by
    rw [lastSegment, ← List.reverse_append, List.takeWhile_append_dropWhile, List.reverse_reverse]
  have head := List.head?_dropWhile_not (fun character => !endsPiece character) text.reverse
  cases front : text.reverse.dropWhile fun character => !endsPiece character with
  | nil =>
      rw [front, List.reverse_nil, List.nil_append] at parts
      refine ⟨[], parts, ?_⟩
      rw [parts, lastPosition?_eq_none fun _ => endsPiece_of_mem_lastSegment]
      rfl
  | cons last earlier =>
      rw [front] at parts head
      have ends : endsPiece last = true := by simpa using head
      rw [List.reverse_cons, List.append_assoc, List.singleton_append] at parts
      have found : lastPosition? endsPiece text = some (utf8Len earlier.reverse) :=
        (congrArg _ parts).trans
          (lastPosition?_append_cons ends fun _ => endsPiece_of_mem_lastSegment)
      refine ⟨earlier.reverse ++ [last], by rw [List.append_assoc]; exact parts, ?_⟩
      rw [found, String.utf8Len_append, String.utf8Len_cons, utf8Size_of_endsPiece ends]
      rfl

/-- The statement ends behind the next semicolon. -/
theorem exists_throughSemicolon (text : List Char) :
    ∃ behind, text = throughSemicolon text ++ behind ∧
      (firstPosition? (· = ';') text).elim (utf8Len text) (· + 1) = utf8Len (throughSemicolon text) := by
  induction text with
  | nil => exact ⟨[], rfl, rfl⟩
  | cons character rest inductionHypothesis =>
      rw [throughSemicolon, firstPosition?]
      by_cases semicolon : character = ';'
      · subst semicolon
        exact ⟨rest, rfl, rfl⟩
      · obtain ⟨behind, parts, finish⟩ := inductionHypothesis
        rw [if_neg semicolon, if_neg (by simpa using semicolon)]
        refine ⟨behind, congrArg _ parts, ?_⟩
        simp only [String.utf8Len_cons, ← finish]
        cases firstPosition? (· = ';') rest with
        | none => rfl
        | some position =>
            simp only [Option.map_some, Option.elim_some]
            omega

/-- No cut fails, and what is cut out is the statement around the position. -/
theorem cutPiece_eq
    {source : String}
    {front rear : List Char}
    (parts : source.toList = front ++ rear) :
    cutPiece source (utf8Len front) =
      some (String.ofList (pieceAround source.toList front.length)) := by
  obtain ⟨before, frontParts, start⟩ := exists_lastSegment front
  obtain ⟨behind, rearParts, finish⟩ := exists_throughSemicolon rear
  have size : source.utf8ByteSize = utf8Len (front ++ rear) := by rw [← parts, String.utf8Len_toList]
  have stop : min (utf8Len front) source.utf8ByteSize = utf8Len front := by
    rw [size, String.utf8Len_append]
    exact Nat.min_eq_left (Nat.le_add_right _ _)
  have frontCut : slice? source 0 (utf8Len front) = some (String.ofList front) :=
    @slice?_eq_some source [] front rear parts
  have rearCut : slice? source (utf8Len front) source.utf8ByteSize = some (String.ofList rear) := by
    rw [size]
    exact @slice?_eq_some source front rear [] (by rw [parts, List.append_nil])
  have through :
      (firstPosition? (· = ';') rear).elim source.utf8ByteSize (utf8Len front + · + 1) =
        utf8Len (front ++ throughSemicolon rear) := by
    rw [String.utf8Len_append, ← finish, size, String.utf8Len_append]
    cases firstPosition? (· = ';') rear <;> rfl
  have statementCut : slice? source (utf8Len before) (utf8Len (front ++ throughSemicolon rear)) =
      some (String.ofList (lastSegment front ++ throughSemicolon rear)) := by
    have statementParts : front ++ throughSemicolon rear =
        before ++ (lastSegment front ++ throughSemicolon rear) := by
      rw [← List.append_assoc, ← frontParts]
    rw [statementParts]
    have sourceParts : source.toList =
        before ++ (lastSegment front ++ throughSemicolon rear) ++ behind := by
      rw [← statementParts, List.append_assoc, ← rearParts, parts]
    exact slice?_eq_some sourceParts
  simp only [cutPiece, stop, frontCut, rearCut, Option.bind_eq_bind, Option.bind_some,
    String.toList_ofList, start, through, statementCut]
  rw [parts, pieceAround_append, trimString, trimString, parts, String.toList_ofList]
  simp only [String.isEmpty_iff, String.ofList_eq_empty_iff, List.isEmpty_iff]
  split <;> rfl

/-! ## The piece in the source -/

theorem trim_pieceAround (text : List Char) (offset : Nat) :
    trim (pieceAround text offset) = pieceAround text offset := by
  unfold pieceAround
  dsimp only
  split <;> exact trim_trim _

/-- A text with a visible character has a piece that is not empty. -/
theorem pieceAround_ne_nil
    {text : List Char}
    (visible : ∃ character ∈ text, isWhiteSpace character = false)
    (offset : Nat) :
    pieceAround text offset ≠ [] := by
  unfold pieceAround
  dsimp only
  split
  · intro gone
    obtain ⟨character, among, shows⟩ := visible
    exact Bool.false_ne_true (shows.symm.trans (trim_eq_nil_iff.mp gone character among))
  · next filled => simpa using filled

theorem pieceAround_isInfix (front rear : List Char) :
    pieceAround (front ++ rear) front.length <:+: front ++ rear := by
  rw [pieceAround_append]
  split
  · exact trim_isInfix _
  · obtain ⟨before, frontParts, _⟩ := exists_lastSegment front
    obtain ⟨behind, rearParts, _⟩ := exists_throughSemicolon rear
    have statement : before ++ (lastSegment front ++ throughSemicolon rear) ++ behind = front ++ rear := by
      rw [← List.append_assoc, ← frontParts, List.append_assoc, ← rearParts]
    exact (trim_isInfix _).trans ⟨before, behind, statement⟩

/-- The piece around a visible character holds it. -/
theorem exists_pieceAround_cons
    {character : Char}
    (front rear : List Char)
    (visible : isWhiteSpace character = false) :
    ∃ before inner after behind,
      front = before ++ inner ∧ rear = after ++ behind ∧
        pieceAround (front ++ character :: rear) front.length = inner ++ character :: after := by
  obtain ⟨before, frontParts, _⟩ := exists_lastSegment front
  obtain ⟨behind, rearParts, _⟩ := exists_throughSemicolon (character :: rear)
  obtain ⟨through, started⟩ : ∃ through, throughSemicolon (character :: rear) = character :: through := by
    rw [throughSemicolon]
    split
    · next semicolon => exact ⟨[], semicolon ▸ rfl⟩
    · exact ⟨_, rfl⟩
  obtain ⟨blank, throughParts⟩ := exists_trimEnd_append through
  refine ⟨before ++ (lastSegment front).takeWhile isWhiteSpace,
    (lastSegment front).dropWhile isWhiteSpace, trimEnd through, blank ++ behind, ?_, ?_, ?_⟩
  · rw [List.append_assoc, List.takeWhile_append_dropWhile]
    exact frontParts
  · rw [started, List.cons_append] at rearParts
    rw [← List.append_assoc, ← throughParts]
    exact List.tail_eq_of_cons_eq rearParts
  · rw [pieceAround_append, started, trim_append_cons _ _ visible, if_neg (by simp)]

/-- A blank segment behind the end of a statement is the last one. -/
theorem lastSegment_append
    {front segment : List Char}
    (ended : ∀ last ∈ front.getLast?, endsPiece last = true)
    (blank : ∀ character ∈ segment, isWhiteSpace character = true) :
    lastSegment (front ++ segment) = segment := by
  have inside : ∀ character ∈ segment.reverse, (!endsPiece character) = true := by
    intro character among
    have white := blank character (List.mem_reverse.mp among)
    simp only [Bool.not_eq_true', endsPiece, Bool.or_eq_false_iff, decide_eq_false_iff_not]
    constructor <;> rintro rfl <;> exact absurd white (by decide)
  have stops : ∀ character ∈ front.reverse.head?, (!endsPiece character) = false := by
    intro character among
    rw [List.head?_reverse] at among
    simp [ended character among]
  rw [lastSegment, List.reverse_append, (Token.takeWhile_append_of_stops inside stops).1,
    List.reverse_reverse]

/-- A piece is a fit report of a source in which reading stopped at a position. -/
structure ReportsPiece (source : String) (position : Nat) (piece : String) : Prop where
  /-- No cut fails, and the piece is what is cut out. -/
  cut : cutPiece source position = some piece
  /-- The piece is not empty. -/
  filled : piece ≠ ""
  /-- The piece has no white space at its ends. -/
  trimmed : trimString piece = piece
  /-- The piece stands in the source.  Reading stopped at the end or at a visible character of the piece. -/
  stands : ∃ before behind, source.toList = before ++ piece.toList ++ behind ∧
    (position = source.utf8ByteSize ∨
      ∃ inner character after, piece.toList = inner ++ character :: after ∧
        position = utf8Len (before ++ inner) ∧ isWhiteSpace character = false)
  /-- If reading stopped at the end behind a blank segment, the piece is the whole source. -/
  whole : ∀ front segment, source.toList = front ++ segment → position = source.utf8ByteSize →
    (∀ last ∈ front.getLast?, endsPiece last = true) →
    (∀ character ∈ segment, isWhiteSpace character = true) →
    piece = trimString source

theorem reportsPiece_pieceAround
    {source : String}
    {front rear : List Char}
    (parts : source.toList = front ++ rear)
    (starts : ∀ first ∈ rear.head?, isWhiteSpace first = false)
    (visible : ∃ character ∈ source.toList, isWhiteSpace character = false) :
    ReportsPiece source (utf8Len front) (String.ofList (pieceAround source.toList front.length)) := by
  have size : source.utf8ByteSize = utf8Len front + utf8Len rear := by
    rw [← String.utf8Len_append, ← parts, String.utf8Len_toList]
  constructor
  · exact cutPiece_eq parts
  · intro empty
    exact pieceAround_ne_nil visible _ (String.ofList_eq_empty_iff.mp empty)
  · rw [trimString, String.toList_ofList, trim_pieceAround]
  · rw [String.toList_ofList]
    cases rear with
    | nil =>
        obtain ⟨before, behind, placed⟩ := pieceAround_isInfix front []
        rw [← parts] at placed
        exact ⟨before, behind, placed.symm, .inl size.symm⟩
    | cons character rest =>
        obtain ⟨before, inner, after, behind, rfl, rfl, held⟩ :=
          exists_pieceAround_cons front rest (starts character rfl)
        rw [parts, held]
        exact ⟨before, behind, by simp, .inr ⟨inner, character, after, rfl, rfl, starts character rfl⟩⟩
  · intro other segment otherParts atEnd ended blank
    obtain rfl : rear = [] := by
      rw [← String.utf8Len_eq_zero]
      omega
    rw [List.append_nil] at parts
    have last : lastSegment front = segment := by
      rw [← parts, otherParts, lastSegment_append ended blank]
    have gone : trim (lastSegment front ++ throughSemicolon []) = [] := by
      rw [last]
      exact trim_eq_nil_iff.mpr (by simpa [throughSemicolon] using blank)
    have around := pieceAround_append front []
    rw [gone, List.append_nil, ← parts] at around
    rw [← parts, around]
    rfl

/--
A source that is not understood is reported with a piece of it.  It is cut out between positions of which none
is outside of the source or inside of a character.  Reading stopped in the piece or at the end of the source.
-/
theorem parseSnippet_reports_piece
    {source piece : String}
    (failed : parseSnippet source = .error piece) :
    ∃ position, parsePositioned source = .error position ∧ ReportsPiece source position piece := by
  obtain ⟨fault, stopped, rfl⟩ : ∃ fault, parseCharacters source.toList = .error fault ∧
      String.ofList (pieceAround source.toList fault) = piece := by
    unfold parseSnippet at failed
    dsimp only at failed
    split at failed
    · next fault stopped => exact ⟨fault, stopped, Except.error.inj failed⟩
    · nomatch failed
  have visible := exists_visible_of_parseCharacters stopped
  have positioned : parsePositioned source = .error (positionAt source.toList fault) := by
    rw [parsePositioned_eq, stopped]
    rfl
  refine ⟨_, positioned, ?_⟩
  rcases stops_of_parseCharacters stopped with rfl | ⟨front, character, rear, parts, rfl, starts⟩
  · rw [positionAt, List.take_length]
    exact reportsPiece_pieceAround (List.append_nil _).symm nofun visible
  · have here : positionAt source.toList front.length = utf8Len front := by
      rw [parts, positionAt_length]
    rw [here]
    exact reportsPiece_pieceAround parts (by simpa using starts) visible

/-- A text where a statement should start, behind a character of two bytes and in front of another one. -/
def misplacedText : String :=
  "return \"é\"; \"ü\" ; return;"

theorem parseSnippet_reports_misplacedText :
    parseSnippet misplacedText = .error "\"ü\" ;" ∧
      parsePositioned misplacedText = .error 13 ∧
      ReportsPiece misplacedText 13 "\"ü\" ;" := by
  have failed : parseSnippet misplacedText = .error "\"ü\" ;" := by decide +kernel
  have stopped : parsePositioned misplacedText = .error 13 := by decide +kernel
  obtain ⟨position, positioned, reports⟩ := parseSnippet_reports_piece failed
  obtain rfl := Except.error.inj (stopped.symm.trans positioned)
  exact ⟨failed, stopped, reports⟩

/-- Behind the last semicolon there is nothing to report. -/
example : parseSnippet "\x7breturn \"é\"; " = .error "\x7breturn \"é\";" := by
  decide +kernel

end LateBinding
