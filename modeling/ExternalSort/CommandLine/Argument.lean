import ExternalSort.Decimal
import ExternalSort.Text.Blank

/-!
# The shape of an argument

What an argument can be is seen from its first characters: an option behind two
hyphens, letters behind one hyphen, the mark `--` that ends all options, or
anything else. A single hyphen is no option.
-/

namespace ExternalSort.CommandLine

/-- What an argument looks like. -/
inductive Shape where
  /-- The mark `--`. -/
  | escape
  /-- A name behind two hyphens, with the value that follows an equals sign. -/
  | long (name : String) (value : Option String)
  /-- Letters behind one hyphen. -/
  | short (letters : List Char)
  /-- Anything else. -/
  | plain
  deriving DecidableEq, Repr

/-- The shape of an argument. -/
def Shape.ofText (argument : String) : Shape :=
  match argument.toList with
  | ['-'] => .plain
  | ['-', '-'] => .escape
  | '-' :: '-' :: name =>
    match Text.splitAtFirst? '=' (String.ofList name) with
    | some (name, value) => .long name (some value)
    | none => .long (String.ofList name) none
  | '-' :: letters => .short letters
  | _ => .plain

/-- Letters behind a hyphen that look like a number: digits, then perhaps a point
and more digits, then perhaps an exponent mark and more digits. A point or a mark
does not come first, and a mark does not come last. -/
def looksLikeNumber (letters : List Char) : Bool :=
  let mantissa := letters.takeWhile (!isExponentMark ·)
  let exponent := letters.dropWhile (!isExponentMark ·)
  let isMantissa :=
    mantissa.all (fun c => c.isDigit || c == '.') && mantissa.count '.' ≤ 1 &&
      mantissa.head? != some '.'
  match exponent with
  | [] => isMantissa
  | _ :: digits => isMantissa && !mantissa.isEmpty && !digits.isEmpty && digits.all Char.isDigit

end ExternalSort.CommandLine
