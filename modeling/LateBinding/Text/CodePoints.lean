/-!
# Sets of code points

A Unicode property is a set of code points.  It is stored as its inclusive ranges in increasing
order, so a look-up stops at the first range that lies above the code point.
-/

namespace LateBinding
namespace Text

/-- Inclusive ranges of code points in increasing order. -/
abbrev CodePointRanges :=
  List (Nat × Nat)

/-- A code point is in the set when some range contains it. -/
def CodePointRanges.contains : CodePointRanges → Nat → Bool
  | [], _ => false
  | (first, last) :: later, code =>
      if code < first then false
      else if code ≤ last then true
      else contains later code

end Text
end LateBinding
