import ExternalSort.Dyadic

/-!
# Double-precision numbers

A double-precision number is a 64-bit word: a sign bit, eleven bits of
exponent and 52 bits of fraction. All of its arithmetic here is exact
arithmetic on natural numbers, so results are decided by the format alone.

The finite numbers are multiples of the least positive one, `2 ^ -1074`. `units`
is this multiple, without the sign. `dyadic` is the same number as a fraction in
lowest terms (`dyadic_eq`).
-/

namespace ExternalSort

/-- A double-precision number, given by its bits. Two words are the same number
for `DecidableEq` only if they are the same word: the two zeros differ, and so
do two words for "not a number". -/
structure Binary64 where
  bits : UInt64
  deriving DecidableEq, Repr

namespace Binary64

/-! ## 1. Fields -/

/-- The sign bit is set. -/
def isNegative (x : Binary64) : Bool := 2 ^ 63 ≤ x.bits.toNat

/-- The word without its sign bit. -/
def magnitude (x : Binary64) : Nat := x.bits.toNat % 2 ^ 63

/-- The biased exponent, `0 … 2047`. -/
def exponentField (x : Binary64) : Nat := x.magnitude / 2 ^ 52

/-- The fraction, `0 … 2 ^ 52 - 1`. -/
def fractionField (x : Binary64) : Nat := x.magnitude % 2 ^ 52

/-- The number with this sign whose other bits are `magnitude`. -/
def ofMagnitude (negative : Bool) (magnitude : Nat) : Binary64 :=
  ⟨UInt64.ofNat (if negative then 2 ^ 63 + magnitude else magnitude)⟩

/-! ## 2. Special numbers -/

/-- The magnitude of an infinity: all bits of the exponent and none of the
fraction. Every larger magnitude is not a number. -/
def infiniteMagnitude : Nat := 2047 * 2 ^ 52

/-- The word stands for no number. -/
def isNaN (x : Binary64) : Bool := infiniteMagnitude < x.magnitude

/-- The number is plus or minus infinity. -/
def isInfinite (x : Binary64) : Bool := x.magnitude == infiniteMagnitude

/-- The number is plus or minus zero. -/
def isZero (x : Binary64) : Bool := x.magnitude == 0

/-- Zero with this sign. -/
def zero (negative : Bool) : Binary64 := ofMagnitude negative 0

/-- Infinity with this sign. -/
def infinity (negative : Bool) : Binary64 := ofMagnitude negative infiniteMagnitude

/-- The usual word for "not a number", with this sign. -/
def signedNaN (negative : Bool) : Binary64 := ofMagnitude negative (infiniteMagnitude + 2 ^ 51)

/-- The usual word for "not a number". -/
def nan : Binary64 := signedNaN false

/-- The number one. -/
def one : Binary64 := ofMagnitude false (1023 * 2 ^ 52)

/-! ## 3. Values -/

/-- The least positive number is `2 ^ -unitExponent`. -/
def unitExponent : Nat := 1074

/-- The exponent field that counts: subnormal numbers, whose field is zero, are
scaled like those whose field is one. -/
def scale (x : Binary64) : Nat := max x.exponentField 1

/-- The fraction with its leading one, which subnormal numbers do not have. -/
def mantissa (x : Binary64) : Nat :=
  if x.exponentField = 0 then x.fractionField else 2 ^ 52 + x.fractionField

/-- A finite number without its sign, as a multiple of `2 ^ -unitExponent`. -/
def units (x : Binary64) : Nat := x.mantissa * 2 ^ (x.scale - 1)

/-- A finite number without its sign, as a fraction in lowest terms. -/
def dyadic (x : Binary64) : Dyadic :=
  .reduce (x.mantissa * 2 ^ (x.scale - (unitExponent + 1))) (unitExponent + 1 - x.scale)

/-- The two ways to give the value of a finite number agree. -/
theorem dyadic_eq (x : Binary64) :
    x.dyadic.numerator * 2 ^ unitExponent = x.units * 2 ^ x.dyadic.shift := by
  have hle : x.dyadic.shift ≤ unitExponent + 1 - x.scale := Dyadic.shift_reduce_le _ _
  have hvalue : x.dyadic.numerator * 2 ^ (unitExponent + 1 - x.scale - x.dyadic.shift)
      = x.mantissa * 2 ^ (x.scale - (unitExponent + 1)) := Dyadic.numerator_reduce _ _
  have hscale : 1 ≤ x.scale := Nat.le_max_right _ _
  have hsum : x.scale - 1 + x.dyadic.shift + (unitExponent + 1 - x.scale - x.dyadic.shift)
      = x.scale - (unitExponent + 1) + unitExponent := by omega
  apply Nat.eq_of_mul_eq_mul_right (Nat.two_pow_pos (unitExponent + 1 - x.scale - x.dyadic.shift))
  rw [Nat.mul_right_comm, hvalue, units, Nat.mul_assoc, Nat.mul_assoc, Nat.mul_assoc,
    ← Nat.pow_add, ← Nat.pow_add, ← Nat.pow_add, ← Nat.add_assoc, hsum]

/-! ## 4. Order -/

/-- The place of a number in the order of all numbers. The two zeros share one
place. Magnitudes grow with the numbers, so they serve as places. -/
def place (x : Binary64) : Int := if x.isNegative then -x.magnitude else x.magnitude

/-- `x` is a number below the number `y`. -/
def less (x y : Binary64) : Bool := !x.isNaN && !y.isNaN && x.place < y.place

/-- `x` is a number not above the number `y`. -/
def atMost (x y : Binary64) : Bool := !x.isNaN && !y.isNaN && x.place ≤ y.place

/-- `x` is a number above zero and not above one. -/
def isPositiveShare (x : Binary64) : Bool := (zero false).less x && x.atMost one

end Binary64

end ExternalSort
