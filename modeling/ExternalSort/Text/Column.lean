/-!
# Columns of text

Text of a fixed width, filled up at its front. A text that is too wide is left
as it is.
-/

namespace ExternalSort.Text

/-- A text behind as many `fill` characters as it needs to be `width`
characters wide. -/
def padStart (fill : Char) (width : Nat) (text : String) : String :=
  String.ofList (List.replicate (width - text.length) fill) ++ text

/-- A text at the right end of a column of spaces. -/
def alignRight (width : Nat) (text : String) : String := padStart ' ' width text

/-- The eight binary digits of a byte. -/
def binaryDigits (byte : UInt8) : String :=
  padStart '0' 8 (String.ofList (Nat.toDigits 2 byte.toNat))

/-- Bytes in binary, with a space between them. -/
def binary (bytes : List UInt8) : String := " ".intercalate (bytes.map binaryDigits)

end ExternalSort.Text
