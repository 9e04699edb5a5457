import ExternalSort.Proofs.Varint.Canonical
import ExternalSort.Record

/-!
# Record sizes grow with their lengths

The header of a length grows in steps: it takes more bytes where the length leaves the
band or reaches the next power of 256, and it never takes fewer
(`Varint.encodedLength_mono`). So no part of a shorter record is larger than that of a
longer one (`RecordSize.ofLengths_mono`).
-/

namespace ExternalSort

namespace Varint

theorem magnitude_of_nonneg {value : Int64} (h : 0 ≤ value.toInt) :
    (magnitude value : Int) = value.toInt := by
  unfold magnitude
  rw [if_neg (Int.not_lt.2 h), Int.toNat_of_nonneg h]

theorem payloadLength_mono {value value' : Int64} (h : 0 ≤ value'.toInt)
    (hle : value'.toInt ≤ value.toInt) : payloadLength value' ≤ payloadLength value := by
  have hmagnitude : magnitude value' ≤ magnitude value := by
    rw [← Int.ofNat_le, magnitude_of_nonneg h, magnitude_of_nonneg (Int.le_trans h hle)]
    exact hle
  rw [payloadLength_le_iff (payloadLength_pos value)]
  exact Nat.lt_of_le_of_lt hmagnitude (magnitude_lt value)

theorem encodedLength_mono {value value' : Int64} (h : 0 ≤ value'.toInt)
    (hle : value'.toInt ≤ value.toInt) : encodedLength value' ≤ encodedLength value := by
  have hpayload := payloadLength_mono h hle
  unfold encodedLength
  cases hband' : inBand value'
  · have hband : inBand value = false := by
      rw [← Bool.not_eq_true, inBand_iff] at hband' ⊢
      omega
    rw [hband]
    exact Nat.succ_le_succ hpayload
  · rw [if_pos rfl]
    split
    · exact Nat.le_refl 1
    · exact Nat.succ_le_succ (Nat.zero_le _)

end Varint

namespace RecordSizer

variable {keyBytes valueBytes : Int64}

theorem size_of_nonneg (sizer : RecordSizer) (hkey : 0 ≤ keyBytes.toInt)
    (hvalue : 0 ≤ valueBytes.toInt) :
    let wire := Varint.encodedLength keyBytes + keyBytes.toInt.toNat
      + Varint.encodedLength valueBytes + valueBytes.toInt.toNat
    sizer.size keyBytes valueBytes
      = .ok
          { keyHeader := Varint.encodedLength keyBytes
            valueHeader := Varint.encodedLength valueBytes
            keyBytes := keyBytes.toInt.toNat
            valueBytes := valueBytes.toInt.toNat
            bufferFootprint := sizer.bookkeepingBytes.toNat + wire
            wireFootprint := wire } := by
  unfold size
  rw [if_neg (Int.not_lt.2 hkey), if_neg (Int.not_lt.2 hvalue)]

/-- A record has no size if one of its lengths is negative. The length of the key is
looked at first. -/
theorem size_eq_error_iff (sizer : RecordSizer) {error : SizeError} :
    sizer.size keyBytes valueBytes = .error error ↔
      keyBytes < 0 ∧ error = ⟨.keyBytes, keyBytes⟩ ∨
        0 ≤ keyBytes ∧ valueBytes < 0 ∧ error = ⟨.valueBytes, valueBytes⟩ := by
  have hzero : (0 : Int64).toInt = 0 := rfl
  rw [Int64.lt_iff_toInt_lt, Int64.le_iff_toInt_le, Int64.lt_iff_toInt_lt, hzero]
  by_cases hkey : keyBytes.toInt < 0
  · have hsize : sizer.size keyBytes valueBytes = .error ⟨.keyBytes, keyBytes⟩ := if_pos hkey
    rw [hsize]
    simp [hkey, Int.not_le.2 hkey, eq_comm]
  · by_cases hvalue : valueBytes.toInt < 0
    · have hsize : sizer.size keyBytes valueBytes = .error ⟨.valueBytes, valueBytes⟩ :=
        (if_neg hkey).trans (if_pos hvalue)
      rw [hsize]
      simp [hkey, hvalue, Int.not_lt.1 hkey, eq_comm]
    · rw [size_of_nonneg sizer (Int.not_lt.1 hkey) (Int.not_lt.1 hvalue)]
      simp [hkey, hvalue]

end RecordSizer

namespace RecordSize

variable {keyBytes valueBytes keyBytes' valueBytes' : Int64} {size : RecordSize}

/-- With the usual bookkeeping there are 16 bytes more in the buffer than on disk. -/
theorem ofLengths_of_nonneg (hkey : 0 ≤ keyBytes.toInt) (hvalue : 0 ≤ valueBytes.toInt) :
    let wire := Varint.encodedLength keyBytes + keyBytes.toInt.toNat
      + Varint.encodedLength valueBytes + valueBytes.toInt.toNat
    ofLengths keyBytes valueBytes
      = .ok
          { keyHeader := Varint.encodedLength keyBytes
            valueHeader := Varint.encodedLength valueBytes
            keyBytes := keyBytes.toInt.toNat
            valueBytes := valueBytes.toInt.toNat
            bufferFootprint := 16 + wire
            wireFootprint := wire } :=
  RecordSizer.size_of_nonneg {} hkey hvalue

theorem ofLengths_eq_error_iff {error : SizeError} :
    ofLengths keyBytes valueBytes = .error error ↔
      keyBytes < 0 ∧ error = ⟨.keyBytes, keyBytes⟩ ∨
        0 ≤ keyBytes ∧ valueBytes < 0 ∧ error = ⟨.valueBytes, valueBytes⟩ :=
  RecordSizer.size_eq_error_iff {}

/-- What a record occupies is at most what another one does. -/
structure IsAtMost (size bound : RecordSize) : Prop where
  bufferFootprint_le : size.bufferFootprint ≤ bound.bufferFootprint
  wireFootprint_le : size.wireFootprint ≤ bound.wireFootprint
  payloadBytes_le : size.payloadBytes ≤ bound.payloadBytes

theorem ofLengths_mono (h : ofLengths keyBytes valueBytes = .ok size)
    (hkey : 0 ≤ keyBytes'.toInt) (hkeys : keyBytes'.toInt ≤ keyBytes.toInt)
    (hvalue : 0 ≤ valueBytes'.toInt) (hvalues : valueBytes'.toInt ≤ valueBytes.toInt) :
    ∃ size', ofLengths keyBytes' valueBytes' = .ok size' ∧ size'.IsAtMost size := by
  have hkeyHeader := Varint.encodedLength_mono hkey hkeys
  have hvalueHeader := Varint.encodedLength_mono hvalue hvalues
  rw [ofLengths_of_nonneg (Int.le_trans hkey hkeys) (Int.le_trans hvalue hvalues)] at h
  cases h
  refine ⟨_, ofLengths_of_nonneg hkey hvalue, ?_, ?_, ?_⟩
  · simp only
    omega
  · simp only
    omega
  · simp only [payloadBytes]
    omega

end RecordSize

end ExternalSort
