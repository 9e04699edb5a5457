import ExternalSort.Binary64.Basic
import ExternalSort.Decimal

/-!
# Shortest decimals

The text of a double-precision number has the fewest digits that still read
back as this number. Of several such decimals it is the one nearest to the
number, and the larger one when two are equally near.

A decimal reads back as `x` if it lies in the interval of numbers that round to
`x`. The ends of this interval, half-way to the neighbours of `x`, belong to it
if the last bit of `x` is even. The search goes from coarse decimal grids to
fine ones. If any point of a grid lies in the interval, then one of the two grid
points around `x` does, so only these are tried. The grid of step `10 ^ -1074`
holds every finite number, so the search ends there at the latest.
-/

namespace ExternalSort.Binary64

/-! ## 1. The interval of numbers that round to one -/

/-- A number and the interval of numbers that round to it, in quarters of the
least positive number. -/
structure RoundingInterval where
  low : Nat
  centre : Nat
  high : Nat
  /-- The ends belong to the interval. -/
  closed : Bool
  deriving Repr

/-- The interval of a finite number without its sign. Below a power of two the
numbers lie twice as dense, except at the least one with an exponent. -/
def roundingInterval (x : Binary64) : RoundingInterval :=
  let step := 2 ^ (x.scale - 1)
  let below := if x.fractionField = 0 ∧ 1 < x.exponentField then step else 2 * step
  let centre := 4 * x.units
  { low := centre - below
    centre
    high := centre + 2 * step
    closed := x.mantissa % 2 == 0 }

namespace RoundingInterval

/-- A fraction, in the unit of the interval, lies in the interval. -/
def contains (interval : RoundingInterval) (numerator denominator : Nat) : Bool :=
  if interval.closed then
    interval.low * denominator ≤ numerator && numerator ≤ interval.high * denominator
  else
    interval.low * denominator < numerator && numerator < interval.high * denominator

/-! ## 2. The search -/

/-- The multiple of `10 ^ exponent` that lies in the interval and is nearest to
its centre, if there is one. The step of this grid is `step / divisor` in the unit
of the interval. -/
def onGrid (interval : RoundingInterval) (exponent : Int) : Option Nat :=
  let step := 2 ^ (unitExponent + 2) * 10 ^ exponent.toNat
  let divisor := 10 ^ (-exponent).toNat
  let below := interval.centre * divisor / step
  let holdsBelow := interval.contains (below * step) divisor
  let holdsAbove := interval.contains ((below + 1) * step) divisor
  let aboveIsNearer : Bool := (2 * below + 1) * step ≤ 2 * interval.centre * divisor
  if holdsBelow && !(holdsAbove && aboveIsNearer) then some below
  else if holdsAbove then some (below + 1)
  else none

/-- The decimal on the coarsest grid that meets the interval, from the grid of
step `10 ^ (index - unitExponent)` downwards. -/
def coarsest (interval : RoundingInterval) : Nat → Decimal
  | 0 => ⟨(interval.onGrid (-unitExponent)).getD 0, -unitExponent⟩
  | index + 1 =>
    let exponent : Int := (index + 1 : Nat) - unitExponent
    match interval.onGrid exponent with
    | some digits => ⟨digits, exponent⟩
    | none => interval.coarsest index

end RoundingInterval

/-- The shortest decimal of a finite number other than zero, without the sign.
The first grid has a step above the number and so does every coarser one. -/
def shortest (x : Binary64) : Decimal :=
  x.roundingInterval.coarsest ((x.units / 2 ^ unitExponent).log2 + 1 + unitExponent)

/-! ## 3. Text -/

/-- A number as text: its shortest decimal in full. -/
def display (x : Binary64) : String :=
  if x.isNaN then "NaN"
  else
    let digits :=
      if x.isInfinite then "inf" else if x.isZero then "0" else x.shortest.positional
    if x.isNegative then "-" ++ digits else digits

end ExternalSort.Binary64
