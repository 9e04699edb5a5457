import ExternalSort.BigEndian

/-!
# Zero-compressed integers

A signed 64-bit integer is stored in one to nine bytes. A value of the band
`-112 … 127` is its own single byte. Any other value is a length byte followed
by its low bytes, most significant first:

* length byte `-113 … -120`: a non-negative value in `1 … 8` bytes,
* length byte `-121 … -128`: a negative value in `1 … 8` bytes.

The number of bytes is the least that holds the value without its leading
zero bytes, or, for a negative value, without its leading bytes of ones. The
sign in the length byte restores what was left out.

The form is canonical. `decode` refuses a sequence that `encode` does not
write: a sign that the payload contradicts, a value of the band spelled long,
a payload with a superfluous leading byte.
-/

namespace ExternalSort.Varint

/-! ## 1. The parts of an encoding -/

/-- The value is stored as its own single byte. -/
def inBand (value : Int64) : Bool :=
  -112 ≤ value.toInt && value.toInt ≤ 127

/-- The bits that tell how long a payload must be: the value itself, or its
one's complement when it is negative. -/
def magnitude (value : Int64) : Nat :=
  if value.toInt < 0 then (-value.toInt - 1).toNat else value.toInt.toNat

/-- The least positive number of bytes that holds the magnitude of `value`. -/
def payloadLength (value : Int64) : Nat :=
  (magnitude value).log2 / 8 + 1

/-- The low `count` bytes of the two's complement form of `value`. -/
def lowBytes (count : Nat) (value : Int64) : List UInt8 :=
  BigEndian.digits count value.toUInt64.toNat

/-- What the first byte of an encoding announces. -/
inductive Head where
  /-- The byte is the value. -/
  | single (value : Int64)
  /-- A payload of `length` bytes follows, of a value with this sign. -/
  | payload (negative : Bool) (length : Nat)
  deriving DecidableEq, Repr

/-- Length bytes of one sign count downwards from here. -/
def lengthBase : Bool → Int
  | true => -120
  | false => -112

/-- The length byte in front of a payload of `length` bytes. -/
def lengthByte (negative : Bool) (length : Nat) : Int8 :=
  Int8.ofInt (lengthBase negative - length)

/-- Reads a first byte, taken as a signed number. -/
def Head.ofByte (byte : Int8) : Head :=
  if -112 ≤ byte.toInt then .single (Int64.ofInt byte.toInt)
  else if byte.toInt < lengthBase true then .payload true (lengthBase true - byte.toInt).toNat
  else .payload false (lengthBase false - byte.toInt).toNat

@[simp] theorem length_lowBytes (count : Nat) (value : Int64) :
    (lowBytes count value).length = count :=
  BigEndian.length_digits _ _

theorem payloadLength_pos (value : Int64) : 0 < payloadLength value := Nat.succ_pos _

theorem payloadLength_le (value : Int64) : payloadLength value ≤ 8 := by
  have hlow := value.le_toInt
  have hhigh := value.toInt_lt
  have hmagnitude : magnitude value < 2 ^ 64 := by
    unfold magnitude
    split <;> omega
  have hlog : (magnitude value).log2 < 64 := by
    rcases Nat.eq_zero_or_pos (magnitude value) with hzero | hpos
    · rw [hzero]
      decide
    · exact (Nat.log2_lt (Nat.ne_of_gt hpos)).2 hmagnitude
  unfold payloadLength
  omega

theorem toInt_lengthByte (negative : Bool) {length : Nat} (hle : length ≤ 8) :
    (lengthByte negative length).toInt = lengthBase negative - length := by
  unfold lengthByte
  apply Int8.toInt_ofInt_of_le <;> cases negative <;> simp only [lengthBase] <;> omega

theorem Head.ofByte_lengthByte (negative : Bool) {length : Nat} (hpos : 0 < length)
    (hle : length ≤ 8) : Head.ofByte (lengthByte negative length) = .payload negative length := by
  unfold ofByte
  rw [toInt_lengthByte negative hle]
  cases negative
  · have hsingle : ¬ -112 ≤ lengthBase false - length := by simp only [lengthBase]; omega
    have hsign : ¬ lengthBase false - length < lengthBase true := by simp only [lengthBase]; omega
    have hlength : (lengthBase false - (lengthBase false - length)).toNat = length := by omega
    simp only [hsingle, hsign, hlength, if_false]
  · have hsingle : ¬ -112 ≤ lengthBase true - length := by simp only [lengthBase]; omega
    have hsign : lengthBase true - length < lengthBase true := by omega
    have hlength : (lengthBase true - (lengthBase true - length)).toNat = length := by omega
    simp only [hsingle, hsign, hlength, if_false, if_true]

theorem Head.payload_length {byte : Int8} {negative : Bool} {length : Nat}
    (h : Head.ofByte byte = .payload negative length) : 0 < length ∧ length ≤ 8 := by
  have hlow := byte.le_toInt
  unfold ofByte at h
  split at h
  · cases h
  · split at h <;> cases h <;> simp only [lengthBase] at * <;> omega

/-! ## 2. Writing -/

/-- The number of bytes that `encode` writes for `value`. -/
def encodedLength (value : Int64) : Nat :=
  if inBand value then 1 else payloadLength value + 1

/-- The bytes of `value`. -/
def encode (value : Int64) : List UInt8 :=
  if inBand value then lowBytes 1 value
  else
    let length := payloadLength value
    (lengthByte (value.toInt < 0) length).toUInt8 :: lowBytes length value

/-- Appends the bytes of `value` and counts them. -/
def append (bytes : List UInt8) (value : Int64) : List UInt8 × Nat :=
  if inBand value then (bytes ++ lowBytes 1 value, 1)
  else
    let length := payloadLength value
    let head := (lengthByte (value.toInt < 0) length).toUInt8
    (bytes ++ [head] ++ lowBytes length value, length + 1)

theorem length_encode (value : Int64) : (encode value).length = encodedLength value := by
  unfold encode encodedLength
  split <;> simp

theorem append_eq (bytes : List UInt8) (value : Int64) :
    append bytes value = (bytes ++ encode value, encodedLength value) := by
  unfold append encode encodedLength
  split <;> simp

/-! ## 3. Reading -/

/-- Why a byte sequence does not start with an encoding. -/
inductive DecodeError where
  /-- There is no byte at all. -/
  | empty
  /-- The length byte announces more bytes than there are. -/
  | truncated (lengthByte : Int8) (needed available : Nat)
  /-- The bytes spell a value, but not in the way `encode` does. -/
  | nonCanonical (lengthByte : Int8) (value : Int64)
  deriving DecidableEq, Repr

/-- The text of the error. -/
def DecodeError.message : DecodeError → String
  | .empty => "no bytes to decode"
  | .truncated lengthByte needed available =>
    s!"length byte {lengthByte.toInt} needs {needed} value bytes, only {available} available"
  | .nonCanonical lengthByte value =>
    s!"length byte {lengthByte.toInt} is not the canonical encoding of {value.toInt}"

/-- The value of a payload. A negative one has its left-out leading bytes
restored as ones, which subtracts `256 ^ length`; the result is a 64-bit word,
so for eight bytes nothing is left to restore. -/
def payloadValue (negative : Bool) (payload : List UInt8) : Int64 :=
  let raw : Int := BigEndian.value payload
  Int64.ofInt (if negative then raw - 256 ^ payload.length else raw)

/-- `value` is stored under a length byte of this sign and length. -/
def isStoredAs (negative : Bool) (length : Nat) (value : Int64) : Bool :=
  decide (value.toInt < 0) == negative && !inBand value && payloadLength value == length

/-- The value of a payload that is present in full, or the refusal of a
payload that is not canonical. -/
def readPayload (lengthByte : Int8) (negative : Bool) (payload : List UInt8) :
    Except DecodeError Int64 :=
  let value := payloadValue negative payload
  if isStoredAs negative payload.length value then .ok value
  else .error (.nonCanonical lengthByte value)

/-- Decodes one value from the front of `bytes` and counts the bytes that it
took. What follows is not looked at. -/
def decode (bytes : List UInt8) : Except DecodeError (Int64 × Nat) :=
  match bytes with
  | [] => .error .empty
  | byte :: rest =>
    match Head.ofByte byte.toInt8 with
    | .single value => .ok (value, 1)
    | .payload negative length =>
      if rest.length < length then .error (.truncated byte.toInt8 length rest.length)
      else
        (readPayload byte.toInt8 negative (rest.take length)).map fun value => (value, length + 1)

end ExternalSort.Varint
