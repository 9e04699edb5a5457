import ExternalSort.Binary64.Basic

/-!
# Rounding to double precision

A quotient of natural numbers is rounded to the nearest double-precision
number, and halfway to the one with an even last bit. Products and whole
numbers are rounded quotients. The quotient is formed exactly and rounded
once, so `mul` and `ofNat` are as exact as the format permits.
-/

namespace ExternalSort.Binary64

/-- The natural number nearest to `numerator / denominator`, the even one when
two are equally near. -/
def roundHalfEven (numerator denominator : Nat) : Nat :=
  let quotient := numerator / denominator
  let remainder := numerator % denominator
  if 2 * remainder < denominator then quotient
  else if denominator < 2 * remainder then quotient + 1
  else quotient + quotient % 2

/-- The number nearest to `numerator / denominator`, with this sign.

In multiples of the least positive number the quotient may need more than 53 bits. Then its
low `excess` bits are rounded off. Every bit rounded off raises the exponent
field by one, so the bits of the result are the sum of both; a mantissa that is
rounded up to 54 bits carries into the exponent, and a result past the largest
number becomes infinite. -/
def ofRatio (negative : Bool) (numerator denominator : Nat) : Binary64 :=
  let units := numerator * 2 ^ unitExponent
  let excess := (units / denominator).log2 - 52
  let mantissa := roundHalfEven units (denominator * 2 ^ excess)
  ofMagnitude negative (min infiniteMagnitude (excess * 2 ^ 52 + mantissa))

/-- The number nearest to `n`. -/
def ofNat (n : Nat) : Binary64 := ofRatio false n 1

/-- The rounded product. It is not a number if a factor is not, or if zero
meets infinity. -/
def mul (x y : Binary64) : Binary64 :=
  let negative := x.isNegative != y.isNegative
  if x.isNaN || y.isNaN then nan
  else if x.isInfinite || y.isInfinite then
    if x.isZero || y.isZero then nan else infinity negative
  else ofRatio negative (x.units * y.units) (2 ^ (2 * unitExponent))

end ExternalSort.Binary64
