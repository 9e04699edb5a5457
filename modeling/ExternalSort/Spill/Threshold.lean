import ExternalSort.Binary64.Basic
import ExternalSort.CeilDiv

/-!
# The spill threshold

A sort buffer spills each time its occupancy reaches a share of its capacity.
The share is a double-precision number, so the threshold is a dyadic fraction
of a byte and is kept exactly.

`Threshold.spillsFor` counts the spills of a number of bytes by binary long
division: one bit of the shift at a time, with a remainder that stays below the
numerator. It gives up as soon as the quotient has left the 64-bit range, since
further bits only double it. `Threshold.ceiling` is the number that it counts.
-/

namespace ExternalSort.Spill

/-- The largest count that is reported. -/
def largestCount : Nat := 2 ^ 64 - 1

/-- Keeps a number that can be reported. -/
def countWithin? (n : Nat) : Option Nat := if n ≤ largestCount then some n else none

/-- The occupancy, in bytes, at which a buffer spills. -/
structure Threshold where
  bytes : Dyadic
  deriving DecidableEq, Repr

/-- A quotient so far, and what it leaves over. -/
structure Division where
  quotient : Nat
  remainder : Nat
  deriving DecidableEq, Repr

/-- Goes on to a dividend of twice the size. -/
def Division.double (divisor : Nat) (state : Division) : Division :=
  if divisor ≤ 2 * state.remainder then
    ⟨2 * state.quotient + 1, 2 * state.remainder - divisor⟩
  else ⟨2 * state.quotient, 2 * state.remainder⟩

/-- Doubles the dividend `steps` times, unless the quotient is too large before
that. -/
def Division.doubleTimes (divisor : Nat) : Nat → Division → Option Division
  | 0, state => some state
  | steps + 1, state =>
    if largestCount < state.quotient then none
    else doubleTimes divisor steps (state.double divisor)

/-- A step doubles the dividend that quotient and remainder stand for. -/
theorem Division.double_equation (divisor : Nat) (state : Division) :
    (state.double divisor).quotient * divisor + (state.double divisor).remainder
      = 2 * (state.quotient * divisor + state.remainder) := by
  unfold double
  split
  · simp only [Nat.add_mul, Nat.mul_assoc, Nat.mul_add]
    omega
  · simp only [Nat.mul_assoc, Nat.mul_add]

theorem Division.remainder_double_lt {divisor : Nat} {state : Division}
    (h : state.remainder < divisor) : (state.double divisor).remainder < divisor := by
  unfold double
  split
  · simp only
    omega
  · next hlt => exact Nat.lt_of_not_le hlt

/-- The quotient rounded up. -/
def Division.roundedUp (state : Division) : Nat :=
  if state.remainder = 0 then state.quotient else state.quotient + 1

namespace Threshold

/-- The threshold of a buffer of `capacity` bytes that spills at `fraction` of
it. -/
def ofBuffer (capacity : UInt64) (fraction : Binary64) : Threshold :=
  ⟨fraction.dyadic.scale capacity.toNat⟩

/-- How often `bytes` bytes fill the buffer up to the threshold, the last time
perhaps only in part. `none` if this is more than can be reported. -/
def spillsFor (threshold : Threshold) (bytes : Nat) : Option Nat :=
  let divisor := threshold.bytes.numerator
  let start : Division := ⟨bytes / divisor, bytes % divisor⟩
  (start.doubleTimes divisor threshold.bytes.shift).bind fun state =>
    countWithin? state.roundedUp

/-- `bytes` over the threshold, rounded up: the number of spills without a
bound. -/
def ceiling (threshold : Threshold) (bytes : Nat) : Nat :=
  ceilDiv (bytes * 2 ^ threshold.bytes.shift) threshold.bytes.numerator

end Threshold

end ExternalSort.Spill
