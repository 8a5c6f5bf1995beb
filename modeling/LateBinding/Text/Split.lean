/-!
# Splitting text

The pieces of a text between the occurrences of a separator.  There is always one piece more than
there are separators.
-/

namespace LateBinding
namespace Text

/-- The pieces of a text between separators. -/
def splitOn (separator : Char) : List Char → List (List Char)
  | [] => [[]]
  | character :: rest =>
      if character = separator then [] :: splitOn separator rest
      else
        match splitOn separator rest with
        | [] => [[character]]
        | piece :: pieces => (character :: piece) :: pieces

/-- The pieces put together again with separators between them. -/
def joinWith (separator : Char) : List (List Char) → List Char
  | [] => []
  | [piece] => piece
  | piece :: pieces => piece ++ separator :: joinWith separator pieces

@[simp] theorem joinWith_cons_cons
    (separator : Char)
    (piece next : List Char)
    (later : List (List Char)) :
    joinWith separator (piece :: next :: later) =
      piece ++ separator :: joinWith separator (next :: later) := rfl

theorem splitOn_ne_nil (separator : Char) (text : List Char) :
    splitOn separator text ≠ [] := by
  cases text with
  | nil => simp [splitOn]
  | cons character rest =>
      simp only [splitOn]
      split
      · simp
      · split <;> simp

/-- Joining undoes splitting. -/
theorem joinWith_splitOn (separator : Char) (text : List Char) :
    joinWith separator (splitOn separator text) = text := by
  induction text with
  | nil => rfl
  | cons character rest ih =>
      simp only [splitOn]
      rcases pieces : splitOn separator rest with _ | ⟨piece, later⟩
      · exact absurd pieces (splitOn_ne_nil separator rest)
      · rw [pieces] at ih
        split
        · next same => cases later <;> simp_all [joinWith]
        · cases later <;> simp_all [joinWith]

theorem splitOn_append_cons
    {separator : Char}
    {piece : List Char}
    (absent : separator ∉ piece)
    (rest : List Char) :
    splitOn separator (piece ++ separator :: rest) = piece :: splitOn separator rest := by
  induction piece with
  | nil => simp [splitOn]
  | cons character piece ih =>
      rw [List.mem_cons, not_or] at absent
      simp [splitOn, Ne.symm absent.1, ih absent.2]

theorem splitOn_of_notMem {separator : Char} {piece : List Char} (absent : separator ∉ piece) :
    splitOn separator piece = [piece] := by
  induction piece with
  | nil => rfl
  | cons character piece ih =>
      rw [List.mem_cons, not_or] at absent
      simp [splitOn, Ne.symm absent.1, ih absent.2]

/-- Splitting undoes the joining of pieces in which the separator does not occur. -/
theorem splitOn_joinWith
    {separator : Char}
    {pieces : List (List Char)}
    (nonempty : pieces ≠ [])
    (absent : ∀ piece ∈ pieces, separator ∉ piece) :
    splitOn separator (joinWith separator pieces) = pieces := by
  induction pieces with
  | nil => exact absurd rfl nonempty
  | cons piece later ih =>
      have apart := absent piece List.mem_cons_self
      cases later with
      | nil => exact splitOn_of_notMem apart
      | cons next later =>
          rw [joinWith_cons_cons, splitOn_append_cons apart,
            ih (by simp) fun piece present => absent piece (List.mem_cons_of_mem _ present)]

end Text
end LateBinding
