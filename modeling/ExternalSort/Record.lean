import ExternalSort.Varint.Basic

/-!
# Record sizes

A record is a key and a value. On disk each of them stands behind a header, the
integer that holds its length (`Varint.encode`). In the sort buffer a record
takes the same bytes and some more for bookkeeping: its partition, its offsets
and the length of its value.

A `RecordSizer` computes the `RecordSize` of a record from the lengths of its
key and its value, without writing any byte. Sizes are natural numbers, so a sum
of them never wraps around.
-/

namespace ExternalSort

/-! ## 1. Faults -/

/-- A length that a record is sized from. -/
inductive SizeField where
  | keyBytes
  | valueBytes
  | textLength
  deriving DecidableEq, Repr

/-- The name under which a length is reported. -/
def SizeField.name : SizeField → String
  | .keyBytes => "key_bytes"
  | .valueBytes => "value_bytes"
  | .textLength => "text_chars"

/-- A length that is negative. -/
structure SizeError where
  field : SizeField
  value : Int64
  deriving DecidableEq, Repr

/-- The text of the error. -/
def SizeError.message (error : SizeError) : String :=
  s!"invalid size: {error.field.name} = {error.value.toInt} (must be >= 0)"

/-! ## 2. Fields -/

/-- The length of a four-byte integer value. -/
def intFieldBytes : Int64 := 4

/-- The length of a text of `length` bytes as a field: the text itself behind
an integer that holds its length. -/
def textFieldBytes (length : Int64) : Except SizeError Int64 :=
  if length.toInt < 0 then .error ⟨.textLength, length⟩
  else .ok (Int64.ofNat (Varint.encodedLength length) + length)

/-! ## 3. Records -/

/-- The bytes of one record, part by part. -/
structure RecordSize where
  /-- The header in front of the key. -/
  keyHeader : Nat
  /-- The header in front of the value. -/
  valueHeader : Nat
  keyBytes : Nat
  valueBytes : Nat
  /-- What the record occupies in the sort buffer. -/
  bufferFootprint : Nat
  /-- What the record occupies in a spill file or in the merged output. -/
  wireFootprint : Nat
  deriving DecidableEq, Repr

namespace RecordSize

/-- Key and value without their headers. -/
def payloadBytes (size : RecordSize) : Nat := size.keyBytes + size.valueBytes

/-- What the record occupies in the sort buffer only. -/
def bookkeepingBytes (size : RecordSize) : Nat := size.bufferFootprint - size.wireFootprint

/-- The report of a record size. -/
def display (size : RecordSize) : String :=
  s!"key {size.keyHeader}+{size.keyBytes} B, value {size.valueHeader}+{size.valueBytes} B, " ++
    s!"buffer {size.bufferFootprint} B, wire {size.wireFootprint} B"

end RecordSize

/-- Sizes records for a buffer that keeps `bookkeepingBytes` more bytes for each
of them. The default is four 4-byte integers. -/
structure RecordSizer where
  bookkeepingBytes : UInt64 := 16
  deriving DecidableEq, Repr

/-- The size of a record with a key and a value of these lengths. The key is
checked first. -/
def RecordSizer.size (sizer : RecordSizer) (keyBytes valueBytes : Int64) :
    Except SizeError RecordSize :=
  if keyBytes.toInt < 0 then .error ⟨.keyBytes, keyBytes⟩
  else if valueBytes.toInt < 0 then .error ⟨.valueBytes, valueBytes⟩
  else
    let keyHeader := Varint.encodedLength keyBytes
    let valueHeader := Varint.encodedLength valueBytes
    let key := keyBytes.toInt.toNat
    let value := valueBytes.toInt.toNat
    let wire := keyHeader + key + valueHeader + value
    .ok
      { keyHeader
        valueHeader
        keyBytes := key
        valueBytes := value
        bufferFootprint := sizer.bookkeepingBytes.toNat + wire
        wireFootprint := wire }

/-- The size of a record with the usual bookkeeping. -/
def RecordSize.ofLengths (keyBytes valueBytes : Int64) : Except SizeError RecordSize :=
  ({} : RecordSizer).size keyBytes valueBytes

end ExternalSort
