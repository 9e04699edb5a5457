import ExternalSort.Varint.Basic

/-!
# The canonical form of an integer

A byte string is accepted if and only if it starts with an encoding. Everything
rests on two facts about payloads: the low bytes of a value spell it modulo a
power of 256 (`value_lowBytes`), and a payload of the right length spells
nothing else (`magnitude_lt`).

Results:
1. `payloadValue_lowBytes`, `lowBytes_payloadValue`: a value and the payload it
   is stored in determine each other.
2. `readPayload_eq_ok_iff`: the three checks of a payload together accept the
   payload of a value outside the band and no other.
3. `decode_eq_ok_iff_append`: decoding accepts an encoding in front of any
   bytes, and nothing else. So no encoding starts another one
   (`encode_append_inj`).
-/

namespace ExternalSort.Varint

/-! ## 1. Values and payloads -/

theorem inBand_iff {value : Int64} : inBand value ↔ -112 ≤ value.toInt ∧ value.toInt ≤ 127 := by
  rw [inBand, Bool.and_eq_true, decide_eq_true_eq, decide_eq_true_eq]

theorem magnitude_lt_iff {value : Int64} {bound : Nat} :
    magnitude value < bound ↔ -(bound : Int) ≤ value.toInt ∧ value.toInt < bound := by
  unfold magnitude
  split <;> omega

/-- A payload is as long as the magnitude of its value needs it to be. -/
theorem payloadLength_le_iff {value : Int64} {count : Nat} (hpos : 0 < count) :
    payloadLength value ≤ count ↔ magnitude value < 256 ^ count := by
  have hpow : 256 ^ count = 2 ^ (8 * count) := (Nat.pow_mul 2 8 count).symm
  rw [hpow, payloadLength]
  rcases Nat.eq_zero_or_pos (magnitude value) with hzero | hmagnitude
  · have hshort : Nat.log2 0 / 8 + 1 ≤ count := hpos
    rw [hzero]
    exact iff_of_true hshort (Nat.two_pow_pos _)
  · rw [← Nat.log2_lt (Nat.ne_of_gt hmagnitude)]
    omega

theorem magnitude_lt (value : Int64) : magnitude value < 256 ^ payloadLength value :=
  (payloadLength_le_iff (payloadLength_pos value)).1 (Nat.le_refl _)

theorem toNat_toUInt64 (value : Int64) : (value.toUInt64.toNat : Int) = value.toInt % 2 ^ 64 := by
  have hword : value.toInt = value.toBitVec.toInt := rfl
  rw [← Int64.toNat_toBitVec, hword, BitVec.toInt_eq_toNat_bmod, Int.bmod_def]
  have hlt := value.toBitVec.isLt
  split <;> omega

/-- Up to eight bytes, what is left out of a word is a multiple of the low part. -/
theorem pow_dvd_word {count : Nat} (hle : count ≤ 8) : (256 : Int) ^ count ∣ 2 ^ 64 := by
  have hword : (2 : Int) ^ 64 = 256 ^ count * 256 ^ (8 - count) := by
    rw [← Int.pow_add, Nat.add_sub_of_le hle]
    decide
  exact ⟨_, hword⟩

theorem value_lowBytes {count : Nat} (hle : count ≤ 8) (value : Int64) :
    (BigEndian.value (lowBytes count value) : Int) = value.toInt % 256 ^ count := by
  rw [lowBytes, BigEndian.value_digits, Int.natCast_emod, toNat_toUInt64, Int.natCast_pow]
  exact Int.emod_emod_of_dvd _ (pow_dvd_word hle)

theorem toInt_ofInt_emod {count : Nat} (hle : count ≤ 8) (n : Int) :
    (Int64.ofInt n).toInt % 256 ^ count = n % 256 ^ count := by
  have hword : (Int64.ofInt n).toInt % 2 ^ 64 = n % 2 ^ 64 := by
    rw [Int64.toInt_ofInt]
    exact Int.bmod_emod
  rw [← Int.emod_emod_of_dvd _ (pow_dvd_word hle), hword, Int.emod_emod_of_dvd _ (pow_dvd_word hle)]

/-- A value lies within the range of its payload, on its own side of zero. -/
theorem toInt_range (value : Int64) :
    -256 ^ payloadLength value ≤ value.toInt ∧ value.toInt < 256 ^ payloadLength value := by
  have hrange := magnitude_lt_iff.1 (magnitude_lt value)
  rwa [Int.natCast_pow] at hrange

/-- The payload of a value, read with the sign of the value, gives it back. -/
theorem payloadValue_lowBytes (value : Int64) :
    payloadValue (value.toInt < 0) (lowBytes (payloadLength value) value) = value := by
  obtain ⟨hlow, hhigh⟩ := toInt_range value
  simp only [payloadValue, length_lowBytes, value_lowBytes (payloadLength_le value),
    decide_eq_true_eq]
  split
  · next hneg =>
    have hraw : value.toInt % 256 ^ payloadLength value
        = value.toInt + 256 ^ payloadLength value := by
      rw [← Int.add_emod_right, Int.emod_eq_of_lt] <;> omega
    rw [hraw, Int.add_sub_cancel, Int64.ofInt_toInt]
  · next hpos =>
    rw [Int.emod_eq_of_lt (by omega) hhigh, Int64.ofInt_toInt]

/-- A payload is the low bytes of the value that it spells, whatever its sign. -/
theorem lowBytes_payloadValue (negative : Bool) {payload : List UInt8}
    (hle : payload.length ≤ 8) :
    lowBytes payload.length (payloadValue negative payload) = payload := by
  apply BigEndian.value_inj (length_lowBytes _ _)
  have hlt : (BigEndian.value payload : Int) < 256 ^ payload.length := by
    have hcast := Int.ofNat_lt.2 (BigEndian.value_lt payload)
    rwa [Int.natCast_pow] at hcast
  rw [← Int.ofNat_inj, value_lowBytes hle, payloadValue, toInt_ofInt_emod hle]
  cases negative
  · exact Int.emod_eq_of_lt (Int.natCast_nonneg _) hlt
  · rw [if_pos rfl, ← Int.add_emod_right, Int.sub_add_cancel]
    exact Int.emod_eq_of_lt (Int.natCast_nonneg _) hlt

/-! ## 2. Payloads that are accepted -/

/-- A value is stored in one way only: under its own sign, in its own number of
bytes, and only outside the band. -/
theorem isStoredAs_iff {negative : Bool} {length : Nat} {value : Int64} :
    isStoredAs negative length value ↔
      inBand value = false ∧ negative = decide (value.toInt < 0) ∧
        length = payloadLength value := by
  simp only [isStoredAs, Bool.and_eq_true, beq_iff_eq, Bool.not_eq_true']
  constructor
  · rintro ⟨⟨hsign, hband⟩, hlength⟩
    exact ⟨hband, hsign.symm, hlength.symm⟩
  · rintro ⟨hband, hsign, hlength⟩
    exact ⟨⟨hsign.symm, hband⟩, hlength.symm⟩

/-- The checks of a payload accept the payload of a value outside the band, under
the sign of the value, and nothing else. -/
theorem readPayload_eq_ok_iff {byte : Int8} {negative : Bool} {payload : List UInt8}
    {value : Int64} (hle : payload.length ≤ 8) :
    readPayload byte negative payload = .ok value ↔
      inBand value = false ∧ negative = decide (value.toInt < 0) ∧
        payload = lowBytes (payloadLength value) value := by
  unfold readPayload
  constructor
  · intro h
    by_cases hstored : isStoredAs negative payload.length (payloadValue negative payload)
    · simp only [hstored, if_true, Except.ok.injEq] at h
      subst h
      obtain ⟨hband, hsign, hlength⟩ := isStoredAs_iff.1 hstored
      refine ⟨hband, hsign, ?_⟩
      rw [← hlength]
      exact (lowBytes_payloadValue negative hle).symm
    · simp [hstored] at h
  · rintro ⟨hband, rfl, rfl⟩
    have hstored := isStoredAs_iff.2 ⟨hband, rfl, rfl⟩
    simp [payloadValue_lowBytes, hstored]

/-- A payload is refused as not canonical and for no other reason. -/
theorem readPayload_cases (byte : Int8) (negative : Bool) (payload : List UInt8) :
    readPayload byte negative payload = .ok (payloadValue negative payload) ∨
      readPayload byte negative payload
        = .error (.nonCanonical byte (payloadValue negative payload)) := by
  unfold readPayload
  simp only
  split
  · exact .inl rfl
  · exact .inr rfl

/-! ## 3. First bytes -/

theorem toInt_toInt8 (byte : UInt8) :
    byte.toInt8.toInt = if byte.toNat < 128 then (byte.toNat : Int) else byte.toNat - 256 := by
  have hword : byte.toInt8.toInt = byte.toBitVec.toInt := rfl
  have hlt := byte.toNat_lt
  rw [hword, BitVec.toInt_eq_toNat_cond, UInt8.toNat_toBitVec]
  split <;> split <;> omega

theorem lowBytes_one_iff {byte : UInt8} {value : Int64} :
    lowBytes 1 value = [byte] ↔ value.toInt % 256 = byte.toNat := by
  have hvalue := value_lowBytes (by decide : 1 ≤ 8) value
  constructor
  · intro h
    rw [h] at hvalue
    exact hvalue.symm.trans (by simp [BigEndian.value])
  · intro h
    apply BigEndian.value_inj (by simp)
    rw [← Int.ofNat_inj, hvalue]
    simpa [BigEndian.value] using h

theorem Head.ofByte_eq_single_iff {byte : UInt8} {value : Int64} :
    Head.ofByte byte.toInt8 = .single value ↔ inBand value ∧ lowBytes 1 value = [byte] := by
  have hbyte := toInt_toInt8 byte
  have hlt := byte.toNat_lt
  have hsmall : (Int64.ofInt byte.toInt8.toInt).toInt = byte.toInt8.toInt := by
    apply Int64.toInt_ofInt_of_le <;> split at hbyte <;> omega
  rw [lowBytes_one_iff, inBand_iff]
  unfold ofByte
  constructor
  · intro h
    split at h
    · next hsingle =>
      cases h
      rw [hsmall]
      split at hbyte <;> omega
    · split at h <;> cases h
  · rintro ⟨⟨hlow, hhigh⟩, hmod⟩
    have hvalue : byte.toInt8.toInt = value.toInt := by
      split at hbyte <;> omega
    rw [hvalue, if_pos hlow, Int64.ofInt_toInt]

theorem Head.ofByte_eq_payload_iff {byte : Int8} {negative : Bool} {length : Nat} :
    Head.ofByte byte = .payload negative length ↔
      0 < length ∧ length ≤ 8 ∧ byte = lengthByte negative length := by
  constructor
  · intro h
    obtain ⟨hpos, hle⟩ := Head.payload_length h
    refine ⟨hpos, hle, ?_⟩
    rw [← Int8.toInt_inj, toInt_lengthByte negative hle]
    unfold ofByte at h
    split at h
    · cases h
    · split at h <;> cases h <;> simp only [lengthBase] at * <;> omega
  · rintro ⟨hpos, hle, rfl⟩
    exact Head.ofByte_lengthByte negative hpos hle

/-! ## 4. Encodings -/

theorem decode_single {byte : UInt8} {value : Int64}
    (h : Head.ofByte byte.toInt8 = .single value) (rest : List UInt8) :
    decode (byte :: rest) = .ok (value, 1) := by
  simp only [decode, h]

theorem decode_payload {byte : UInt8} {negative : Bool} {length : Nat}
    (h : Head.ofByte byte.toInt8 = .payload negative length) (rest : List UInt8) :
    decode (byte :: rest)
      = if rest.length < length then .error (.truncated byte.toInt8 length rest.length)
        else (readPayload byte.toInt8 negative (rest.take length)).map (·, length + 1) := by
  simp only [decode, h]

/-- The first byte of an encoding outside the band announces its payload. -/
theorem Head.ofByte_first (value : Int64) :
    Head.ofByte (lengthByte (value.toInt < 0) (payloadLength value)).toUInt8.toInt8
      = .payload (value.toInt < 0) (payloadLength value) := by
  rw [Int8.toInt8_toUInt8]
  exact Head.ofByte_lengthByte _ (payloadLength_pos value) (payloadLength_le value)

/-- An encoding is decoded whatever follows it. -/
theorem decode_encode_append (value : Int64) (rest : List UInt8) :
    decode (encode value ++ rest) = .ok (value, encodedLength value) := by
  unfold encode encodedLength
  cases hband : inBand value
  · have htake : (lowBytes (payloadLength value) value ++ rest).take (payloadLength value)
        = lowBytes (payloadLength value) value :=
      List.take_left' (length_lowBytes _ _)
    have hread : readPayload (lengthByte (value.toInt < 0) (payloadLength value))
        (value.toInt < 0) (lowBytes (payloadLength value) value) = .ok value :=
      (readPayload_eq_ok_iff (by simp [payloadLength_le])).2 ⟨hband, rfl, rfl⟩
    rw [if_neg Bool.false_ne_true, if_neg Bool.false_ne_true, List.cons_append,
      decode_payload (Head.ofByte_first value), if_neg (by simp), htake, Int8.toInt8_toUInt8,
      hread]
    rfl
  · obtain ⟨byte, hbyte⟩ := List.length_eq_one_iff.1 (length_lowBytes 1 value)
    rw [if_pos rfl, if_pos rfl, hbyte]
    exact decode_single (Head.ofByte_eq_single_iff.2 ⟨hband, hbyte⟩) rest

/-- A payload that is accepted behind a length byte is the rest of an encoding. -/
theorem encode_of_readPayload {byte : UInt8} {negative : Bool} {payload : List UInt8}
    {value : Int64} (hhead : Head.ofByte byte.toInt8 = .payload negative payload.length)
    (hread : readPayload byte.toInt8 negative payload = .ok value) :
    encode value = byte :: payload ∧ encodedLength value = payload.length + 1 := by
  obtain ⟨-, hle, hbyte⟩ := Head.ofByte_eq_payload_iff.1 hhead
  obtain ⟨hband, rfl, hpayload⟩ := (readPayload_eq_ok_iff hle).1 hread
  have hcount : payload.length = payloadLength value := by
    rw [hpayload, length_lowBytes]
  have hfirst : (lengthByte (value.toInt < 0) (payloadLength value)).toUInt8 = byte := by
    rw [← hcount, ← hbyte, UInt8.toUInt8_toInt8]
  unfold encode encodedLength
  rw [hband, if_neg Bool.false_ne_true, if_neg Bool.false_ne_true, hcount]
  exact ⟨by simp only [hfirst, ← hpayload], rfl⟩

/-- Whatever is decoded is an encoding, with other bytes behind it. -/
theorem eq_encode_append_of_decode {bytes : List UInt8} {value : Int64} {used : Nat}
    (h : decode bytes = .ok (value, used)) :
    used = encodedLength value ∧ ∃ rest, bytes = encode value ++ rest := by
  cases bytes with
  | nil => cases h
  | cons byte rest =>
    cases hhead : Head.ofByte byte.toInt8 with
    | single first =>
      rw [decode_single hhead] at h
      cases h
      obtain ⟨hband, hbyte⟩ := Head.ofByte_eq_single_iff.1 hhead
      unfold encode encodedLength
      rw [hband, if_pos rfl, if_pos rfl, hbyte]
      exact ⟨rfl, rest, rfl⟩
    | payload negative length =>
      rw [decode_payload hhead] at h
      split at h
      · cases h
      · next hlong =>
        have hlength : (rest.take length).length = length :=
          List.length_take_of_le (Nat.le_of_not_lt hlong)
        cases hread : readPayload byte.toInt8 negative (rest.take length) with
        | error cause =>
          rw [hread] at h
          cases h
        | ok first =>
          rw [hread] at h
          cases h
          obtain ⟨hencode, hcount⟩ := encode_of_readPayload (hlength.symm ▸ hhead) hread
          refine ⟨by rw [hcount, hlength], rest.drop length, ?_⟩
          rw [hencode, List.cons_append, List.take_append_drop]

/-- Decoding accepts an encoding in front of any bytes, and nothing else. -/
theorem decode_eq_ok_iff_append {bytes : List UInt8} {value : Int64} {used : Nat} :
    decode bytes = .ok (value, used) ↔
      used = encodedLength value ∧ ∃ rest, bytes = encode value ++ rest := by
  constructor
  · exact eq_encode_append_of_decode
  · rintro ⟨rfl, rest, rfl⟩
    exact decode_encode_append value rest

/-- Bytes start with one encoding at most: no encoding is the start of another. -/
theorem encode_append_inj {value value' : Int64} {rest rest' : List UInt8}
    (h : encode value ++ rest = encode value' ++ rest') : value = value' ∧ rest = rest' := by
  have hvalue : value = value' := by
    have hdecode := decode_encode_append value rest
    rw [h, decode_encode_append] at hdecode
    cases hdecode
    rfl
  subst hvalue
  exact ⟨rfl, List.append_cancel_left h⟩

/-- The accepted byte strings are those whose first bytes are an encoding, and
the bytes that are taken are those of the encoding. -/
theorem decode_eq_ok_iff_take (bytes : List UInt8) (value : Int64) (used : Nat) :
    decode bytes = .ok (value, used) ↔
      used = (encode value).length ∧ bytes.take used = encode value := by
  rw [decode_eq_ok_iff_append, ← length_encode]
  constructor
  · rintro ⟨rfl, rest, rfl⟩
    exact ⟨rfl, List.take_left⟩
  · rintro ⟨rfl, htake⟩
    have hsplit := List.take_append_drop (encode value).length bytes
    rw [htake] at hsplit
    exact ⟨rfl, bytes.drop (encode value).length, hsplit.symm⟩

end ExternalSort.Varint
