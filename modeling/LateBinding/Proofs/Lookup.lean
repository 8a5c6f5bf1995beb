import Mathlib.Data.List.Basic

/-!
# Looking up in lists of pairs

The value of a key in a list of pairs is that of the first pair with the key.
-/

namespace LateBinding

variable {Key Value : Type} [BEq Key] [LawfulBEq Key] [DecidableEq Key]

theorem lookup_cons_eq_ite
    (key other : Key)
    (value : Value)
    (rest : List (Key × Value)) :
    ((key, value) :: rest).lookup other = if other = key then some value else rest.lookup other := by
  by_cases same : other = key
  · simp [same]
  · have unequal : (other == key) = false := beq_false_of_ne same
    rw [List.lookup_cons, unequal, if_neg same]

/-- An insertion puts a value in place of the first one of a key, or behind all pairs. -/
theorem lookup_of_insertion
    {key : Key}
    {value : Value}
    (insert : List (Key × Value) → List (Key × Value))
    (insert_nil : insert [] = [(key, value)])
    (insert_cons : ∀ first held rest, insert ((first, held) :: rest) =
      if first = key then (key, value) :: rest else (first, held) :: insert rest)
    (other : Key)
    (pairs : List (Key × Value)) :
    (insert pairs).lookup other = if other = key then some value else pairs.lookup other := by
  induction pairs with
  | nil => rw [insert_nil, lookup_cons_eq_ite]
  | cons pair rest inductionHypothesis =>
      obtain ⟨first, held⟩ := pair
      rw [insert_cons]
      by_cases replaced : first = key
      · rw [if_pos replaced, lookup_cons_eq_ite, lookup_cons_eq_ite, replaced]
        split <;> rfl
      · rw [if_neg replaced, lookup_cons_eq_ite, lookup_cons_eq_ite, inductionHypothesis]
        by_cases same : other = first
        · rw [if_pos same, if_neg (same ▸ replaced), if_pos same]
        · rw [if_neg same, if_neg same]

/-- Without the pairs of a key the other keys have the values they had. -/
theorem lookup_filter_ne (key other : Key) (pairs : List (Key × Value)) :
    (pairs.filter fun pair => pair.1 ≠ key).lookup other =
      if other = key then none else pairs.lookup other := by
  induction pairs with
  | nil => simp
  | cons pair rest inductionHypothesis =>
      obtain ⟨first, value⟩ := pair
      rw [List.filter_cons]
      by_cases erased : first = key
      · rw [if_neg (by simpa using erased), inductionHypothesis, lookup_cons_eq_ite, erased]
        split <;> rfl
      · rw [if_pos (by simpa using erased), lookup_cons_eq_ite, lookup_cons_eq_ite,
          inductionHypothesis]
        by_cases same : other = first
        · rw [if_pos same, if_neg (same ▸ erased), if_pos same]
        · rw [if_neg same, if_neg same]

end LateBinding
