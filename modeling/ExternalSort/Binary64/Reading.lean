import ExternalSort.Binary64.Rounding
import ExternalSort.Decimal

/-!
# Reading decimals

A double-precision number is read from a decimal: digits with an optional point
and an optional exponent, at least one digit beside the point, and an optional
sign in front. `inf`, `infinity` and `nan` are read in any case of their
letters. The decimal is rounded once (`ofDecimal`), so nothing is lost on the
way.
-/

namespace ExternalSort.Binary64

/-- Why a text is not a number. -/
inductive ReadError where
  | empty
  | malformed
  deriving DecidableEq, Repr

/-- The text of the error. -/
def ReadError.message : ReadError → String
  | .empty => "cannot parse float from empty string"
  | .malformed => "invalid float literal"

/-! ## 1. Rounding decimals -/

/-- The number nearest to a decimal, with this sign. A decimal of at least
`10 ^ 309` is past the largest number, and one below `10 ^ -330` rounds to zero;
both are decided without forming the power of ten. -/
def ofDecimal (negative : Bool) (x : Decimal) : Binary64 :=
  if x.digits = 0 then zero negative
  else
    match x.exponent with
    | .ofNat zeros =>
      if 309 ≤ zeros then infinity negative
      else ofRatio negative (x.digits * 10 ^ zeros) 1
    | .negSucc places =>
      if x.digits.log2 + 1 + 3 * 330 ≤ 3 * (places + 1) then zero negative
      else ofRatio negative x.digits (10 ^ (places + 1))

/-! ## 2. Grammar -/

/-- Takes a sign off the front; `true` is a minus. -/
def splitSign : List Char → Bool × List Char
  | '-' :: rest => (true, rest)
  | '+' :: rest => (false, rest)
  | text => (false, text)

/-- The digits of an exponent. Once it has reached `65536` the number is out of
range whatever its digits are, and further digits do not count. -/
def exponentOfDigits (digits : List Char) : Nat :=
  digits.foldl
    (fun high digit =>
      if high < 65536 then 10 * high + (digit.toNat - '0'.toNat) else high) 0

/-- Reads an exponent: a sign and at least one digit. -/
def readExponent (text : List Char) : Option Int :=
  let (negative, digits) := splitSign text
  if digits ≠ [] ∧ digits.all Char.isDigit then
    let exponent : Int := exponentOfDigits digits
    some (if negative then -exponent else exponent)
  else none

/-- Splits a text behind its leading digits. -/
def splitDigits (text : List Char) : List Char × List Char :=
  (text.takeWhile Char.isDigit, text.dropWhile Char.isDigit)

/-- Splits a fraction off the front: a point and digits. -/
def splitFraction : List Char → List Char × List Char
  | '.' :: rest => splitDigits rest
  | text => ([], text)

/-- Reads a decimal without a sign. -/
def readDecimal (text : List Char) : Option Decimal := do
  let (whole, rest) := splitDigits text
  let (fraction, rest) := splitFraction rest
  let digits := whole ++ fraction
  if digits = [] then none
  let exponent ←
    match rest with
    | [] => some 0
    | mark :: rest => if isExponentMark mark then readExponent rest else none
  return ⟨ofDigits digits, exponent - fraction.length⟩

/-- Reads a number that is no decimal. -/
def readSpecial (negative : Bool) (text : List Char) : Option Binary64 :=
  let name := String.ofList (text.map Char.toLower)
  if name = "inf" ∨ name = "infinity" then some (infinity negative)
  else if name = "nan" then some (signedNaN negative)
  else none

/-- Reads a number. -/
def read (text : String) : Except ReadError Binary64 :=
  if text = "" then .error .empty
  else
    let (negative, unsigned) := splitSign text.toList
    match readDecimal unsigned with
    | some decimal => .ok (ofDecimal negative decimal)
    | none =>
      match readSpecial negative unsigned with
      | some special => .ok special
      | none => .error .malformed

end ExternalSort.Binary64
