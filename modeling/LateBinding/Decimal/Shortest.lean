import LateBinding.Decimal.Binary64

/-!
# Shortest decimal digits

The fewest significant digits that read back as a given positive finite number.  The reals that
round to `significand * 2 ^ exponent` form an interval, whose ends belong to it exactly when the
significand is even.  For one, two, up to seventeen digits the two neighbours of the number on the
decimal grid of that width are tried; the first grid with a neighbour in the interval wins.
-/

namespace LateBinding
namespace Decimal

/-- The decimal numeral `digits * 10 ^ exponent`. -/
structure Numeral where
  /-- The digits, read as a natural number. -/
  digits : Nat
  /-- The power of ten that the digits count. -/
  exponent : Int
  deriving DecidableEq, Repr

/--
The reals that round to a number, in quarters of its last place: `low`, `middle` and `high` count
`2 ^ exponent`.
-/
structure RoundingInterval where
  /-- The lower end. -/
  low : Nat
  /-- The number itself. -/
  middle : Nat
  /-- The upper end. -/
  high : Nat
  /-- The power of two that the three count. -/
  exponent : Int
  /-- Whether the ends belong to the interval. -/
  closed : Bool

/-- The interval of a number; below a power of two the spacing halves. -/
def RoundingInterval.of (number : Binary64) : RoundingInterval :=
  let significand := number.significand
  let belowIsNarrow := significand = 1 <<< 52 && 1 < number.exponentField
  { low := if belowIsNarrow then 4 * significand - 1 else 4 * significand - 2
    middle := 4 * significand
    high := 4 * significand + 2
    exponent := number.exponent - 2
    closed := significand % 2 = 0 }

/-- The factor of a grid point `d * 10 ^ k` when it is compared with a count of `2 ^ q`. -/
def gridFactor (q k : Int) : Nat :=
  (Nat.pow 10 k.toNat) <<< (-q).toNat

/-- The factor of a count of `2 ^ q` when it is compared with a grid point `d * 10 ^ k`. -/
def binaryFactor (q k : Int) : Nat :=
  (Nat.pow 10 (-k).toNat) <<< q.toNat

/-- Whether the grid point `d * 10 ^ k` lies in the interval. -/
def RoundingInterval.contains (interval : RoundingInterval) (d : Nat) (k : Int) : Bool :=
  let point := d * gridFactor interval.exponent k
  let low := interval.low * binaryFactor interval.exponent k
  let high := interval.high * binaryFactor interval.exponent k
  if interval.closed then low ≤ point && point ≤ high
  else low < point && point < high

/-- The largest `k` with `10 ^ k` at most the middle of the interval. -/
def RoundingInterval.magnitude (interval : RoundingInterval) : Int :=
  let scaled :=
    (interval.middle * Nat.pow 10 400) <<< interval.exponent.toNat >>> (-interval.exponent).toNat
  ((Nat.toDigits 10 scaled).length : Int) - 401

/--
The neighbour of the middle on the grid of `10 ^ k` that lies in the interval: the nearer of two,
the upper one when both are equally near.
-/
def RoundingInterval.neighbour? (interval : RoundingInterval) (k : Int) : Option Nat :=
  let factor := gridFactor interval.exponent k
  let middle := interval.middle * binaryFactor interval.exponent k
  let below := middle / factor
  let above := below + 1
  match interval.contains below k, interval.contains above k with
  | true, true => if middle - below * factor < above * factor - middle then some below else some above
  | true, false => some below
  | false, true => some above
  | false, false => none

/-- The first grid from `width` digits on with a neighbour in the interval, at most `trials` grids. -/
def RoundingInterval.firstNeighbour (interval : RoundingInterval) :
    Nat → Nat → Numeral
  | 0, width =>
      ⟨interval.middle, interval.magnitude - width⟩
  | trials + 1, width =>
      let k := interval.magnitude + 1 - width
      match interval.neighbour? k with
      | some digits => ⟨digits, k⟩
      | none => interval.firstNeighbour trials (width + 1)

/-- The shortest numeral of a positive finite number, which never needs more than 17 digits. -/
def shortest (number : Binary64) : Numeral :=
  (RoundingInterval.of number).firstNeighbour 17 1

end Decimal
end LateBinding
