import ExternalSort.Power

/-!
# Whole numbers as text

Reading whole numbers of a bounded type. Characters are read from left to
right and the first fault decides: a character that is no digit, or a number
that has left the type. At one character the former comes first.
-/

namespace ExternalSort

/-- Why a text is not a number of the wanted type. -/
inductive NumeralError where
  | empty
  | invalidDigit
  | tooLarge
  | tooSmall
  deriving DecidableEq, Repr

/-- The text of the error. -/
def NumeralError.message : NumeralError → String
  | .empty => "cannot parse integer from empty string"
  | .invalidDigit => "invalid digit found in string"
  | .tooLarge => "number too large to fit in target type"
  | .tooSmall => "number too small to fit in target type"

namespace Numeral

/-- Reads `digits` behind the digits of `high`, up to the number `largest`.
`beyond` is the error of a number that is larger. -/
def readDigits (largest : Nat) (beyond : NumeralError) : Nat → List Char → Except NumeralError Nat
  | high, [] => .ok high
  | high, digit :: digits =>
    if !digit.isDigit then .error .invalidDigit
    else
      let next := 10 * high + (digit.toNat - '0'.toNat)
      if largest < next then .error beyond else readDigits largest beyond next digits

/-- Reads a number up to `largest`, with or without a plus sign. A sign alone is
no number. -/
def readUnsigned (largest : Nat) (text : String) : Except NumeralError Nat :=
  match text.toList with
  | [] => .error .empty
  | ['+'] => .error .invalidDigit
  | '+' :: digits => readDigits largest .tooLarge 0 digits
  | digits => readDigits largest .tooLarge 0 digits

/-- Reads a 64-bit word. -/
def readWord64 (text : String) : Except NumeralError UInt64 :=
  (readUnsigned (2 ^ 64 - 1) text).map UInt64.ofNat

/-- Reads a 32-bit word. -/
def readWord32 (text : String) : Except NumeralError UInt32 :=
  (readUnsigned (2 ^ 32 - 1) text).map UInt32.ofNat

/-- Reads a signed 64-bit number. A minus sign is the only way below zero. -/
def readInt64 (text : String) : Except NumeralError Int64 :=
  match text.toList with
  | ['-'] => .error .invalidDigit
  | '-' :: digits => (readDigits (2 ^ 63) .tooSmall 0 digits).map fun n => Int64.ofInt (-n)
  | _ => (readUnsigned (2 ^ 63 - 1) text).map fun n => Int64.ofInt n

end Numeral

end ExternalSort
