/-!
# Decimal numerals

Natural numbers from strings of decimal digits, and decimal numbers
`digits · 10 ^ exponent` written out in full, without an exponent.
-/

namespace ExternalSort

/-- The number that a string of decimal digits spells. -/
def ofDigits (digits : List Char) : Nat :=
  digits.foldl (fun high digit => 10 * high + (digit.toNat - '0'.toNat)) 0

/-- The letter in front of an exponent, in either case. -/
def isExponentMark (c : Char) : Bool := c == 'e' || c == 'E'

/-- The number `digits · 10 ^ exponent`. -/
structure Decimal where
  digits : Nat
  exponent : Int
  deriving DecidableEq, Repr

namespace Decimal

/-- The last `places` digits stand behind a point, with at least one digit in
front of it. -/
def withPoint (digits : List Char) (places : Nat) : List Char :=
  let padded := List.replicate (places + 1 - digits.length) '0' ++ digits
  let whole := padded.length - places
  padded.take whole ++ '.' :: padded.drop whole

/-- The number written out: with zeros at its end for a positive exponent, with
a point for a negative one. -/
def positional (x : Decimal) : String :=
  let digits := Nat.toDigits 10 x.digits
  match x.exponent with
  | .ofNat zeros => String.ofList (digits ++ List.replicate zeros '0')
  | .negSucc places => String.ofList (withPoint digits (places + 1))

end Decimal

end ExternalSort
