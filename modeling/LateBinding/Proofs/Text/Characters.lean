import LateBinding.Decimal.Reader
import LateBinding.Text.WhiteSpace
import Mathlib.Tactic.ByContra

/-!
# Kinds of characters

Letters, numbers and white space are given by ranges of code points.  Kinds whose ranges lie apart have no
character in common.  The decimal digits of a number are read as the number.
-/

namespace LateBinding
namespace Text

/-- A code point of a set lies in one of its ranges. -/
theorem exists_range_of_contains
    {ranges : CodePointRanges}
    {code : Nat}
    (contained : ranges.contains code = true) :
    ∃ range ∈ ranges, range.1 ≤ code ∧ code ≤ range.2 := by
  fun_induction CodePointRanges.contains ranges code with
  | case1 => nomatch contained
  | case2 => nomatch contained
  | case3 first last later code notBelow within =>
      exact ⟨(first, last), List.mem_cons_self, Nat.not_lt.mp notBelow, within⟩
  | case4 first last later code _ _ inductionHypothesis =>
      obtain ⟨range, found, bounds⟩ := inductionHypothesis contained
      exact ⟨range, List.mem_cons_of_mem _ found, bounds⟩

/-- Sets are disjoint when each range of one ends before each of the other or starts behind it. -/
theorem not_contains_of_apart
    {ranges others : CodePointRanges}
    (apart : ∀ range ∈ ranges, ∀ other ∈ others, range.2 < other.1 ∨ other.2 < range.1)
    {code : Nat}
    (contained : ranges.contains code = true) :
    others.contains code = false := by
  by_contra both
  obtain ⟨range, found, _, _⟩ := exists_range_of_contains contained
  obtain ⟨other, foundOther, _, _⟩ := exists_range_of_contains (Bool.of_not_eq_false both)
  have := apart range found other foundOther
  omega

variable {character : Char}

theorem isAlphanumeric_of_isWhiteSpace (white : isWhiteSpace character = true) :
    isAlphanumeric character = false := by
  have noLetter : isAlphabetic character = false :=
    not_contains_of_apart (by decide +kernel) white
  have noNumber : isNumeric character = false :=
    not_contains_of_apart (by decide +kernel) white
  rw [isAlphanumeric, noLetter, noNumber, Bool.or_false]

theorem contains_of_isAsciiDigit (digit : isAsciiDigit character = true) :
    CodePointRanges.contains [(48, 57)] character.toNat = true := by
  obtain ⟨_, _⟩ : 48 ≤ character.toNat ∧ character.toNat ≤ 57 := by
    simpa [isAsciiDigit, Char.le_def, UInt32.le_iff_toNat_le] using digit
  simp [CodePointRanges.contains, *]

theorem isAlphabetic_of_isAsciiDigit (digit : isAsciiDigit character = true) :
    isAlphabetic character = false :=
  not_contains_of_apart (by decide +kernel) (contains_of_isAsciiDigit digit)

theorem isWhiteSpace_of_isAsciiDigit (digit : isAsciiDigit character = true) :
    isWhiteSpace character = false :=
  not_contains_of_apart (by decide +kernel) (contains_of_isAsciiDigit digit)

theorem isAsciiDigit_of_isWhiteSpace (white : isWhiteSpace character = true) :
    isAsciiDigit character = false := by
  by_contra digit
  simp [isWhiteSpace_of_isAsciiDigit (Bool.of_not_eq_false digit)] at white

end Text

namespace Decimal

open Text

theorem isAsciiDigit_of_mem_toDigits
    {number : Nat}
    {digit : Char}
    (member : digit ∈ Nat.toDigits 10 number) :
    isAsciiDigit digit = true := by
  have isDigit : digit.isDigit = true :=
    Nat.isDigit_of_mem_toDigits (by decide) (Nat.le_refl 10) member
  simpa [isAsciiDigit, Char.isDigit, Char.le_def] using isDigit

/-- A number's own decimal digits are read as the number. -/
theorem natural?_toDigits (number : Nat) : natural? (Nat.toDigits 10 number) = some number := by
  have digits : (Nat.toDigits 10 number).all isAsciiDigit = true :=
    List.all_eq_true.mpr fun _ => isAsciiDigit_of_mem_toDigits
  have value : naturalOfDigits (Nat.toDigits 10 number) = number :=
    Nat.ofDigitChars_toDigits (by decide) (Nat.le_refl 10)
  rw [natural?, digits, value]
  simp

end Decimal
end LateBinding
