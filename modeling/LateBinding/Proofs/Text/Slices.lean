import LateBinding.Text.WhiteSpace
import Mathlib.Data.List.TakeWhile
import Mathlib.Data.String.Basic

/-!
# Pieces of texts

A position in a text is the number of bytes in front of it in UTF-8.  Between two positions there is a piece
of the text only if they are in order and each is at the boundary of a character.  A search answers with the
position of a character, so the position behind that character is found by its size.
-/

namespace LateBinding
namespace Text

open String (utf8Len)

/-- The piece between two positions, if these are in order and at boundaries of characters. -/
def slice? (text : String) (start finish : Nat) : Option String :=
  if start ≤ finish ∧ (⟨start⟩ : String.Pos.Raw).IsValid text ∧
      (⟨finish⟩ : String.Pos.Raw).IsValid text then
    some (String.Pos.Raw.extract text ⟨start⟩ ⟨finish⟩)
  else none

/-- The position of the first character of a kind. -/
def firstPosition? (belongs : Char → Bool) : List Char → Option Nat
  | [] => none
  | character :: rest =>
      if belongs character then some 0
      else (firstPosition? belongs rest).map (character.utf8Size + ·)

/-- The position of the last character of a kind. -/
def lastPosition? (belongs : Char → Bool) : List Char → Option Nat
  | [] => none
  | character :: rest =>
      match lastPosition? belongs rest with
      | some position => some (character.utf8Size + position)
      | none => if belongs character then some 0 else none

/-! ## Slices -/

theorem isValid_utf8Len
    {text : String}
    {front rear : List Char}
    (parts : text.toList = front ++ rear) :
    (⟨utf8Len front⟩ : String.Pos.Raw).IsValid text := by
  refine String.Pos.Raw.isValid_iff_exists_append.mpr ⟨String.ofList front, String.ofList rear, ?_, ?_⟩
  · rw [← String.ofList_append, ← parts, String.ofList_toList]
  · rw [String.rawEndPos_ofList]

/-- Between the positions around a piece there is this piece. -/
theorem slice?_eq_some
    {text : String}
    {before piece behind : List Char}
    (parts : text.toList = before ++ piece ++ behind) :
    slice? text (utf8Len before) (utf8Len (before ++ piece)) = some (String.ofList piece) := by
  have starts : text.toList = before ++ (piece ++ behind) := by rw [parts, List.append_assoc]
  rw [slice?, if_pos ⟨by simp, isValid_utf8Len starts, isValid_utf8Len parts⟩,
    ← String.ofList_toList (s := text), parts, String.utf8Len_append, String.extract_of_valid]

/-! ## Searches -/

variable {belongs : Char → Bool} {front behind : List Char} {character : Char}

theorem lastPosition?_eq_none (missing : ∀ other ∈ behind, belongs other = false) :
    lastPosition? belongs behind = none := by
  induction behind with
  | nil => rfl
  | cons other rest inductionHypothesis =>
      obtain ⟨first, others⟩ := List.forall_mem_cons.mp missing
      simp [lastPosition?, first, inductionHypothesis others]

theorem lastPosition?_append_cons
    (found : belongs character = true)
    (missing : ∀ other ∈ behind, belongs other = false) :
    lastPosition? belongs (front ++ character :: behind) = some (utf8Len front) := by
  induction front with
  | nil => simp [lastPosition?, lastPosition?_eq_none missing, found]
  | cons other rest inductionHypothesis =>
      rw [List.cons_append, lastPosition?, inductionHypothesis, String.utf8Len_cons, Nat.add_comm]

/-! ## White space at the ends -/

theorem dropWhile_append_cons
    (front behind : List Char)
    (visible : isWhiteSpace character = false) :
    (front ++ character :: behind).dropWhile isWhiteSpace =
      front.dropWhile isWhiteSpace ++ character :: behind := by
  rw [List.dropWhile_append, List.dropWhile_cons_of_neg (Bool.eq_false_iff.mp visible)]
  split
  · next blank => rw [List.isEmpty_iff.mp blank, List.nil_append]
  · rfl

theorem trimEnd_append_cons
    (front behind : List Char)
    (visible : isWhiteSpace character = false) :
    trimEnd (front ++ character :: behind) = front ++ character :: trimEnd behind := by
  have turned : (front ++ character :: behind).reverse =
      behind.reverse ++ character :: front.reverse := by simp
  rw [trimEnd, turned, dropWhile_append_cons _ _ visible]
  simp [trimEnd]

/-- Trimming reaches no further than to a visible character, from either side. -/
theorem trim_append_cons
    (front behind : List Char)
    (visible : isWhiteSpace character = false) :
    trim (front ++ character :: behind) =
      front.dropWhile isWhiteSpace ++ character :: trimEnd behind := by
  rw [trim, dropWhile_append_cons _ _ visible, trimEnd_append_cons _ _ visible]

theorem exists_trimEnd_append (text : List Char) : ∃ behind, text = trimEnd text ++ behind := by
  refine ⟨(text.reverse.takeWhile isWhiteSpace).reverse, ?_⟩
  rw [trimEnd, ← List.reverse_append, List.takeWhile_append_dropWhile, List.reverse_reverse]

/-- A trimmed text is a piece of the text. -/
theorem trim_isInfix (text : List Char) : trim text <:+: text := by
  obtain ⟨behind, rest⟩ := exists_trimEnd_append (text.dropWhile isWhiteSpace)
  refine ⟨text.takeWhile isWhiteSpace, behind, ?_⟩
  rw [trim, List.append_assoc, ← rest, List.takeWhile_append_dropWhile]

theorem dropWhile_eq_self
    {text : List Char}
    (starts : ∀ character ∈ text.head?, isWhiteSpace character = false) :
    text.dropWhile isWhiteSpace = text := by
  cases text with
  | nil => rfl
  | cons character rest =>
      exact List.dropWhile_cons_of_neg (Bool.eq_false_iff.mp (starts character rfl))

theorem trim_eq_self
    {text : List Char}
    (starts : ∀ character ∈ text.head?, isWhiteSpace character = false)
    (ends : ∀ character ∈ text.getLast?, isWhiteSpace character = false) :
    trim text = text := by
  rw [trim, dropWhile_eq_self starts, trimEnd, dropWhile_eq_self (by rwa [List.head?_reverse]),
    List.reverse_reverse]

theorem isWhiteSpace_head?_dropWhile
    (text : List Char) :
    ∀ first ∈ (text.dropWhile isWhiteSpace).head?, isWhiteSpace first = false := by
  intro first among
  have visible := List.head?_dropWhile_not isWhiteSpace text
  rw [Option.mem_def.mp among] at visible
  exact visible

theorem isWhiteSpace_head?_trimEnd
    {text : List Char}
    (starts : ∀ first ∈ text.head?, isWhiteSpace first = false) :
    ∀ first ∈ (trimEnd text).head?, isWhiteSpace first = false := by
  cases text with
  | nil => exact starts
  | cons first rest =>
      rw [← List.nil_append (first :: rest), trimEnd_append_cons _ _ (starts first rfl)]
      exact starts

/-- Trimming twice is trimming once. -/
theorem trim_trim (text : List Char) : trim (trim text) = trim text := by
  refine trim_eq_self (isWhiteSpace_head?_trimEnd (isWhiteSpace_head?_dropWhile text)) ?_
  rw [trim, trimEnd, List.getLast?_reverse]
  exact isWhiteSpace_head?_dropWhile _

/-- Nothing is left of a text exactly when it is blank. -/
theorem trim_eq_nil_iff {text : List Char} :
    trim text = [] ↔ ∀ character ∈ text, isWhiteSpace character = true := by
  constructor
  · intro gone other among
    refine Bool.of_not_eq_false fun visible => ?_
    obtain ⟨front, behind, rfl⟩ := List.append_of_mem among
    rw [trim_append_cons _ _ visible] at gone
    simp at gone
  · intro blank
    rw [trim, List.dropWhile_eq_nil_iff.mpr blank]
    rfl

end Text
end LateBinding
