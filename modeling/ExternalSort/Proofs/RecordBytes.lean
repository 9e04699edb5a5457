import ExternalSort.Proofs.RecordSize

/-!
# Record sizes are lengths of bytes

On disk a field is a header, which holds the length of the field, and the bytes of that
length (`fieldBytes`). A record is two fields, and a text is one. So what is computed from
lengths alone is the length of bytes that `Varint.encode` and the fields really have.

Results:
1. `fieldBytes_eq_length`, `fieldBytes_lt`: a field takes as many bytes as it has, and a
   longer field takes more of them, since its header is no shorter.
2. `RecordSizer.isExact_of_size`, `RecordSizer.footprints_lt`: so it is with records.
3. `RecordSizer.size_exact`: there is a size just for lengths that are not negative, it is
   exact, and it grows with each length. The same holds of texts.
-/

namespace ExternalSort

variable {length length' : Int64}

/-! ## 1. Fields -/

/-- What a field of `length` bytes takes on disk. -/
def fieldBytes (length : Int64) : Nat := Varint.encodedLength length + length.toInt.toNat

theorem fieldBytes_eq_length {bytes : List UInt8} (h : (bytes.length : Int) = length.toInt) :
    fieldBytes length = (Varint.encode length ++ bytes).length := by
  rw [List.length_append, Varint.length_encode, fieldBytes, ← h, Int.toNat_natCast]

theorem fieldBytes_lt (hnonneg : 0 ≤ length.toInt) (hlt : length.toInt < length'.toInt) :
    fieldBytes length < fieldBytes length' := by
  have hheader := Varint.encodedLength_mono hnonneg (Int.le_of_lt hlt)
  have hbytes : length.toInt.toNat < length'.toInt.toNat :=
    (Int.toNat_lt_toNat (Int.lt_of_le_of_lt hnonneg hlt)).2 hlt
  exact Nat.add_lt_add_of_le_of_lt hheader hbytes

theorem fieldBytes_mono (hnonneg : 0 ≤ length.toInt) (hle : length.toInt ≤ length'.toInt) :
    fieldBytes length ≤ fieldBytes length' :=
  Nat.add_le_add (Varint.encodedLength_mono hnonneg hle) (Int.toNat_le_toNat hle)

theorem Varint.encodedLength_le (value : Int64) : encodedLength value ≤ 9 := by
  have hpayload := payloadLength_le value
  unfold encodedLength
  split
  · decide
  · exact Nat.succ_le_succ hpayload

/-! ## 2. Texts -/

theorem textFieldBytes_eq_error_iff {error : SizeError} :
    textFieldBytes length = .error error ↔ length < 0 ∧ error = ⟨.textLength, length⟩ := by
  have hzero : (0 : Int64).toInt = 0 := rfl
  rw [Int64.lt_iff_toInt_lt, hzero, textFieldBytes]
  split
  · next hneg => simp [hneg, eq_comm]
  · next hnonneg => simp [hnonneg]

/-- With room for the longest header, the sum does not wrap around. -/
theorem exists_textFieldBytes (hnonneg : 0 ≤ length.toInt) (hroom : length ≤ Int64.maxValue - 9) :
    ∃ total, textFieldBytes length = .ok total ∧ total.toInt = fieldBytes length := by
  have hheader := Varint.encodedLength_le length
  have hheaderWord : (Int64.ofNat (Varint.encodedLength length)).toInt
      = Varint.encodedLength length :=
    Int64.toInt_ofNat_of_lt (Nat.lt_of_le_of_lt hheader (by decide))
  have hlargest : (Int64.maxValue - 9).toInt = 2 ^ 63 - 1 - 9 := by decide
  rw [Int64.le_iff_toInt_le, hlargest] at hroom
  refine ⟨_, if_neg (Int.not_lt.2 hnonneg), ?_⟩
  rw [Int64.toInt_add, hheaderWord, fieldBytes, Int.natCast_add, Int.toNat_of_nonneg hnonneg]
  apply Int.bmod_eq_of_le <;> omega

/-! ## 3. Records -/

/-- The footprints on disk and in the buffer, in words of 64 bits. -/
def RecordSizer.footprintWords (sizer : RecordSizer) (keyBytes valueBytes : Int64) :
    UInt64 × UInt64 :=
  let wire := UInt64.ofNat (Varint.encodedLength keyBytes) + keyBytes.toUInt64
    + UInt64.ofNat (Varint.encodedLength valueBytes) + valueBytes.toUInt64
  (wire, sizer.bookkeepingBytes + wire)

/-- The parts of the size of a record are lengths of bytes. -/
structure RecordSize.IsExact (sizer : RecordSizer) (keyBytes valueBytes : Int64)
    (size : RecordSize) : Prop where
  /-- Whatever key and value have these lengths. -/
  wireFootprint_eq (key value : List UInt8) :
    (key.length : Int) = keyBytes.toInt → (value.length : Int) = valueBytes.toInt →
      size.wireFootprint
        = (Varint.encode keyBytes ++ key ++ Varint.encode valueBytes ++ value).length
  bufferFootprint_eq : size.bufferFootprint = size.wireFootprint + size.bookkeepingBytes
  bookkeepingBytes_eq : size.bookkeepingBytes = sizer.bookkeepingBytes.toNat
  payloadBytes_add : size.payloadBytes + size.keyHeader + size.valueHeader = size.wireFootprint
  /-- In words, the footprints are the same if the larger one fits. -/
  footprintWords_eq : size.bufferFootprint < 2 ^ 64 →
    (sizer.footprintWords keyBytes valueBytes).1.toNat = size.wireFootprint ∧
      (sizer.footprintWords keyBytes valueBytes).2.toNat = size.bufferFootprint

namespace RecordSizer

variable {sizer : RecordSizer} {keyBytes valueBytes keyBytes' valueBytes' : Int64}
variable {size size' : RecordSize}

theorem nonneg_of_size (h : sizer.size keyBytes valueBytes = .ok size) :
    0 ≤ keyBytes.toInt ∧ 0 ≤ valueBytes.toInt := by
  unfold RecordSizer.size at h
  split at h
  · cases h
  · next hkey =>
    split at h
    · cases h
    · next hvalue => exact ⟨Int.not_lt.1 hkey, Int.not_lt.1 hvalue⟩

theorem footprints_of_size (h : sizer.size keyBytes valueBytes = .ok size) :
    size.wireFootprint = fieldBytes keyBytes + fieldBytes valueBytes ∧
      size.bufferFootprint = sizer.bookkeepingBytes.toNat + size.wireFootprint := by
  obtain ⟨hkey, hvalue⟩ := nonneg_of_size h
  rw [size_of_nonneg sizer hkey hvalue] at h
  cases h
  exact ⟨Nat.add_assoc _ _ _, rfl⟩

theorem toUInt64_of_nonneg {length : Int64} (h : 0 ≤ length.toInt) :
    length.toUInt64 = UInt64.ofNat length.toInt.toNat := by
  have hlength : Int64.ofNat length.toInt.toNat = length := by
    rw [← Int64.toInt_inj, Int64.toInt_ofNat_of_lt, Int.toNat_of_nonneg h]
    exact (Int.toNat_lt h).2 length.toInt_lt
  rw [← Int64.toUInt64_ofNat', hlength]

theorem footprintWords_eq (h : sizer.size keyBytes valueBytes = .ok size) :
    sizer.footprintWords keyBytes valueBytes
      = (UInt64.ofNat size.wireFootprint, UInt64.ofNat size.bufferFootprint) := by
  obtain ⟨hkey, hvalue⟩ := nonneg_of_size h
  rw [size_of_nonneg sizer hkey hvalue] at h
  cases h
  simp only [footprintWords, toUInt64_of_nonneg hkey, toUInt64_of_nonneg hvalue, UInt64.ofNat_add,
    UInt64.ofNat_toNat]

theorem isExact_of_size (h : sizer.size keyBytes valueBytes = .ok size) :
    size.IsExact sizer keyBytes valueBytes := by
  have hwords := footprintWords_eq h
  obtain ⟨hwire, hbuffer⟩ := footprints_of_size h
  have hbookkeeping : size.bookkeepingBytes = sizer.bookkeepingBytes.toNat := by
    rw [RecordSize.bookkeepingBytes, hbuffer, Nat.add_sub_cancel]
  refine ⟨?_, ?_, hbookkeeping, ?_, ?_⟩
  · intro key value hkey hvalue
    rw [hwire, fieldBytes_eq_length hkey, fieldBytes_eq_length hvalue, ← List.length_append,
      ← List.append_assoc]
  · rw [hbookkeeping, hbuffer, Nat.add_comm]
  · obtain ⟨hkey, hvalue⟩ := nonneg_of_size h
    rw [size_of_nonneg sizer hkey hvalue] at h
    cases h
    simp only [RecordSize.payloadBytes]
    omega
  · intro hfits
    have hwireFits : size.wireFootprint < 2 ^ 64 :=
      Nat.lt_of_le_of_lt (hbuffer ▸ Nat.le_add_left _ _) hfits
    rw [hwords]
    exact ⟨UInt64.toNat_ofNat_of_lt' hwireFits, UInt64.toNat_ofNat_of_lt' hfits⟩

/-- A record with longer parts takes more bytes, on disk and in the buffer. -/
theorem footprints_lt (h : sizer.size keyBytes valueBytes = .ok size)
    (h' : sizer.size keyBytes' valueBytes' = .ok size')
    (hkeys : keyBytes.toInt ≤ keyBytes'.toInt) (hvalues : valueBytes.toInt ≤ valueBytes'.toInt)
    (hlonger : keyBytes.toInt < keyBytes'.toInt ∨ valueBytes.toInt < valueBytes'.toInt) :
    size.wireFootprint < size'.wireFootprint ∧ size.bufferFootprint < size'.bufferFootprint := by
  obtain ⟨hkey, hvalue⟩ := nonneg_of_size h
  obtain ⟨hwire, hbuffer⟩ := footprints_of_size h
  obtain ⟨hwire', hbuffer'⟩ := footprints_of_size h'
  have hlt : size.wireFootprint < size'.wireFootprint := by
    rw [hwire, hwire']
    rcases hlonger with hkeyLonger | hvalueLonger
    · exact Nat.add_lt_add_of_lt_of_le (fieldBytes_lt hkey hkeyLonger)
        (fieldBytes_mono hvalue hvalues)
    · exact Nat.add_lt_add_of_le_of_lt (fieldBytes_mono hkey hkeys)
        (fieldBytes_lt hvalue hvalueLonger)
  rw [hbuffer, hbuffer']
  exact ⟨hlt, Nat.add_lt_add_left hlt _⟩

/-- A record has a size just if no length of it is negative. Then its footprints are the
lengths of the bytes that it has, and a record with longer parts has larger ones. A text of
any length that leaves room for a header is a field of that many bytes in the same way. -/
theorem size_exact (sizer : RecordSizer) (keyBytes valueBytes length : Int64) :
    (∀ error, sizer.size keyBytes valueBytes = .error error ↔
      keyBytes < 0 ∧ error = ⟨.keyBytes, keyBytes⟩ ∨
        0 ≤ keyBytes ∧ valueBytes < 0 ∧ error = ⟨.valueBytes, valueBytes⟩) ∧
    (0 ≤ keyBytes → 0 ≤ valueBytes → ∃ size, sizer.size keyBytes valueBytes = .ok size ∧
      size.IsExact sizer keyBytes valueBytes ∧
      ∀ keyBytes' valueBytes' size', sizer.size keyBytes' valueBytes' = .ok size' →
        keyBytes ≤ keyBytes' → valueBytes ≤ valueBytes' →
        keyBytes < keyBytes' ∨ valueBytes < valueBytes' →
        size.wireFootprint < size'.wireFootprint ∧
          size.bufferFootprint < size'.bufferFootprint) ∧
    (∀ error, textFieldBytes length = .error error ↔
      length < 0 ∧ error = ⟨.textLength, length⟩) ∧
    (0 ≤ length → length ≤ Int64.maxValue - 9 → ∃ total, textFieldBytes length = .ok total ∧
      (∀ text : List UInt8, (text.length : Int) = length.toInt →
        total.toInt = (Varint.encode length ++ text).length) ∧
      ∀ length' total', length < length' → length' ≤ Int64.maxValue - 9 →
        textFieldBytes length' = .ok total' → total < total') := by
  have hzero : (0 : Int64).toInt = 0 := rfl
  refine ⟨fun error => size_eq_error_iff sizer, ?_, fun error => textFieldBytes_eq_error_iff, ?_⟩
  · intro hkey hvalue
    rw [Int64.le_iff_toInt_le, hzero] at hkey hvalue
    have hsize := size_of_nonneg sizer hkey hvalue
    refine ⟨_, hsize, isExact_of_size hsize, ?_⟩
    intro keyBytes' valueBytes' size' hsize' hkeys hvalues hlonger
    rw [Int64.le_iff_toInt_le] at hkeys hvalues
    rw [Int64.lt_iff_toInt_lt, Int64.lt_iff_toInt_lt] at hlonger
    exact footprints_lt hsize hsize' hkeys hvalues hlonger
  · intro hnonneg hroom
    rw [Int64.le_iff_toInt_le, hzero] at hnonneg
    obtain ⟨total, htotal, hbytes⟩ := exists_textFieldBytes hnonneg hroom
    refine ⟨total, htotal, ?_, ?_⟩
    · intro text htext
      rw [hbytes, fieldBytes_eq_length htext]
    · intro length' total' hlonger hroom' htotal'
      rw [Int64.lt_iff_toInt_lt] at hlonger
      obtain ⟨total'', htotal'', hbytes'⟩ :=
        exists_textFieldBytes (Int.le_trans hnonneg (Int.le_of_lt hlonger)) hroom'
      rw [htotal'] at htotal''
      cases htotal''
      rw [Int64.lt_iff_toInt_lt, hbytes, hbytes']
      exact Int.ofNat_lt.2 (fieldBytes_lt hnonneg hlonger)

/-- From 128 bytes on a header has a second byte. -/
theorem size_exact_secondHeaderByte :
    (∃ size, ({} : RecordSizer).size 127 4 = .ok size ∧ size.IsExact {} 127 4 ∧
      size.wireFootprint < 135 ∧ size.bufferFootprint < 151) ∧
    ({} : RecordSizer).size 128 4 = .ok ⟨2, 1, 128, 4, 151, 135⟩ ∧
    ∃ total, textFieldBytes 127 = .ok total ∧
      total.toInt = (Varint.encode 127 ++ List.replicate 127 65).length ∧
      textFieldBytes 128 = .ok 130 ∧ total < 130 := by
  have hsecond : ({} : RecordSizer).size 128 4 = .ok ⟨2, 1, 128, 4, 151, 135⟩ := rfl
  have hsecondText : textFieldBytes 128 = .ok 130 := rfl
  obtain ⟨-, hrecord, -, htext⟩ := size_exact {} 127 4 127
  obtain ⟨size, hsize, hexact, hgrows⟩ := hrecord (by decide) (by decide)
  obtain ⟨total, htotal, hbytes, htextGrows⟩ := htext (by decide) (by decide)
  refine ⟨⟨size, hsize, hexact, ?_⟩, hsecond, total, htotal, ?_, hsecondText, ?_⟩
  · exact hgrows 128 4 _ hsecond (by decide) (by decide) (.inl (by decide))
  · exact hbytes _ (by rw [List.length_replicate]; rfl)
  · exact htextGrows 128 _ (by decide) (by decide) hsecondText

end RecordSizer

end ExternalSort
