import Stencil.Decimal.Binary64

/-!
# Shortest decimals

The decimal that stands for a binary64 number in text: of all decimals that read back as the
number it has the fewest digits, and of those it is the nearest.

A decimal reads back as the number if it lies in the interval of reals that round to it. Some
multiple of `10 ^ u` lies there for every small `u`; the largest such `u` gives the fewest digits,
and then one of the two multiples next to the number lies in the interval.
-/

namespace Stencil.Decimal

/-- The reals that round to a positive binary64 number, scaled: the number is `middle / unit`, and
    the interval runs from `low / unit` to `high / unit`. -/
structure Interval where
  low : Nat
  middle : Nat
  high : Nat
  unit : Nat
  /-- Whether both ends round to the number too: a tie goes to the even significand. -/
  closed : Bool
  deriving DecidableEq, Repr

namespace Interval

/-- The interval of `significand · 2 ^ exponent`. Below a power of two the neighbour is nearer than
    above it, except at the least exponent of the format. -/
def ofNumber (significand : Nat) (exponent : Int) : Interval :=
  let below := if significand = twoTo 52 ∧ exponent ≠ -1074 then 1 else 2
  let grain := twoTo (exponent - 2).toNat
  { low := (4 * significand - below) * grain
    middle := 4 * significand * grain
    high := (4 * significand + 2) * grain
    unit := twoTo (2 - exponent).toNat
    closed := significand % 2 = 0 }

/-- Multiplies all bounds by `10 ^ -u`. -/
def rescale (i : Interval) (u : Int) : Interval :=
  let factor := tenTo (-u).toNat
  { low := i.low * factor
    middle := i.middle * factor
    high := i.high * factor
    unit := i.unit * tenTo u.toNat
    closed := i.closed }

/-- Whether the integer `n` lies in the interval. -/
def has (i : Interval) (n : Nat) : Bool :=
  let scaled := n * i.unit
  if i.closed then i.low ≤ scaled && scaled ≤ i.high else i.low < scaled && scaled < i.high

/-- The integer of the interval nearest to its number, the even one of two at the same distance. -/
def nearest? (i : Interval) : Option Nat :=
  let below := i.middle / i.unit
  match i.has below, i.has (below + 1) with
  | true, true => some (Binary64.roundHalfEven i.middle i.unit)
  | true, false => some below
  | false, true => some (below + 1)
  | false, false => none

end Interval

/-- The exponents `u` worth trying for a positive number, the largest first. The first exceeds the
    number, and 17 digits always suffice. -/
def unitExponents (significand : Nat) (exponent : Int) : List Int :=
  let bits : Int := significand.log2 + exponent + 2
  let top := Int.fdiv (bits * 30103) 100000 + 1
  (List.range 24).map fun (i : Nat) => top - (i : Int)

/-- The shortest decimal `n · 10 ^ u` that reads back as `significand · 2 ^ exponent`. -/
def shortest (significand : Nat) (exponent : Int) : Nat × Int :=
  let interval := Interval.ofNumber significand exponent
  let hit := (unitExponents significand exponent).findSome? fun u =>
    match (interval.rescale u).nearest? with
    | some 0 => none
    | found => found.map fun n => (n, u)
  hit.getD (0, 0)

end Stencil.Decimal
