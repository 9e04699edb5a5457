import Mathlib.Tactic.Ring
import ExternalSort.Proofs.Varint.Canonical

/-!
# What decoding finds

`Decoded` tells the outcome for each byte string from its bytes alone: there are none, they
start with an encoding, they end inside a payload, or a payload that is there in full is not
what `encode` writes. `decode` finds this outcome and no other (`decoded_iff`).

A reader that fails for want of bytes comes back with more of them. Then an outcome stays as
it is, unless it was that bytes are missing, and that changes once they are all there
(`decode_failures_exact`).
-/

namespace ExternalSort

namespace BigEndian

theorem value_append (front back : List UInt8) :
    value (front ++ back) = value front * 256 ^ back.length + value back := by
  induction back using induction_append with
  | nil => simp
  | append back byte ih =>
    rw [← List.append_assoc, value_append_singleton, ih, value_append_singleton,
      List.length_append, List.length_singleton, Nat.pow_succ]
    ring

theorem value_replicate_zero (count : Nat) : value (List.replicate count 0) = 0 := by
  induction count with
  | zero => rfl
  | succ count ih =>
    rw [List.replicate_succ', value_append_singleton, ih]
    rfl

theorem value_replicate_ones (count : Nat) :
    value (List.replicate count 255) + 1 = 256 ^ count := by
  induction count with
  | zero => rfl
  | succ count ih =>
    have hbyte : (255 : UInt8).toNat = 255 := rfl
    rw [List.replicate_succ', value_append_singleton, hbyte, Nat.pow_succ, ← ih]
    ring

end BigEndian

namespace Varint

variable {byte : Int8} {negative : Bool} {payload rest : List UInt8}

/-! ## 1. Length bytes and payloads -/

/-- This byte stands in front of a payload of this length, of a value with this sign. -/
structure Announces (byte : Int8) (negative : Bool) (length : Nat) : Prop where
  one_le : 1 ≤ length
  le_eight : length ≤ 8
  toInt_eq : byte.toInt = (if negative then -120 else -112) - length

theorem ofByte_eq_payload_iff_announces {length : Nat} :
    Head.ofByte byte = .payload negative length ↔ Announces byte negative length := by
  have hbase : (if negative then -120 else -112 : Int) = lengthBase negative := by
    cases negative <;> rfl
  rw [Head.ofByte_eq_payload_iff]
  constructor
  · rintro ⟨hpos, hle, rfl⟩
    refine ⟨hpos, hle, ?_⟩
    rw [hbase, toInt_lengthByte negative hle]
  · rintro ⟨hpos, hle, hbyte⟩
    refine ⟨hpos, hle, ?_⟩
    rw [← Int8.toInt_inj, toInt_lengthByte negative hle, hbyte, hbase]

/-- A payload with the bytes in front of it that were left out, which makes eight. -/
def filledUp (negative : Bool) (payload : List UInt8) : List UInt8 :=
  List.replicate (8 - payload.length) (if negative then 255 else 0) ++ payload

theorem value_filledUp (negative : Bool) (hle : payload.length ≤ 8) :
    BigEndian.value (filledUp negative payload) + (if negative then 256 ^ payload.length else 0)
      = BigEndian.value payload + (if negative then 256 ^ 8 else 0) := by
  rw [filledUp, BigEndian.value_append]
  cases negative with
  | false =>
    rw [if_neg Bool.false_ne_true, BigEndian.value_replicate_zero, Nat.zero_mul, Nat.zero_add]
    rfl
  | true =>
    have hsplit : 256 ^ (8 - payload.length) * 256 ^ payload.length = 256 ^ 8 := by
      rw [← Nat.pow_add, Nat.sub_add_cancel hle]
    rw [← BigEndian.value_replicate_ones, Nat.succ_mul] at hsplit
    rw [if_pos rfl, if_pos rfl, if_pos rfl, ← hsplit]
    ring

/-- A payload spells the value whose eight bytes it is filled up to. -/
theorem toNat_payloadValue (negative : Bool) (hle : payload.length ≤ 8) :
    (payloadValue negative payload).toUInt64.toNat
      = BigEndian.value (filledUp negative payload) := by
  have hvalue := value_filledUp negative hle
  have hlt := BigEndian.value_lt (filledUp negative payload)
  have hlength : (filledUp negative payload).length = 8 := by
    rw [filledUp, List.length_append, List.length_replicate, Nat.sub_add_cancel hle]
  have hpow : ((256 ^ payload.length : Nat) : Int) = 256 ^ payload.length :=
    Int.natCast_pow 256 payload.length
  rw [hlength] at hlt
  rw [← Int.ofNat_inj, toNat_toUInt64]
  refine (toInt_ofInt_emod (Nat.le_refl 8) _).trans ?_
  cases negative with
  | false =>
    simp only [Bool.false_eq_true, if_false, Nat.add_zero] at hvalue ⊢
    rw [← hvalue]
    exact Int.emod_eq_of_lt (Int.natCast_nonneg _) (Int.ofNat_lt.2 hlt)
  | true =>
    simp only [if_true] at hvalue ⊢
    have hwrapped : (BigEndian.value payload : Int) - 256 ^ payload.length + 256 ^ 8
        = BigEndian.value (filledUp true payload) := by omega
    rw [← Int.add_emod_right, hwrapped]
    exact Int.emod_eq_of_lt (Int.natCast_nonneg _) (Int.ofNat_lt.2 hlt)

theorem eq_payloadValue_iff {value : Int64} (hle : payload.length ≤ 8) :
    value = payloadValue negative payload ↔
      value.toUInt64.toNat = BigEndian.value (filledUp negative payload) := by
  rw [← toNat_payloadValue negative hle, UInt64.toNat_inj]
  constructor
  · rintro rfl
    rfl
  · exact fun h => congrArg Int64.ofUInt64 h

/-! ## 2. Outcomes -/

/-- What there is to find in a byte string. -/
inductive Decoded : List UInt8 → Except DecodeError (Int64 × Nat) → Prop
  | empty : Decoded [] (.error .empty)
  | value (value : Int64) (rest : List UInt8) :
      Decoded (encode value ++ rest) (.ok (value, (encode value).length))
  | truncated {byte : Int8} {negative : Bool} {needed : Nat} {rest : List UInt8} :
      Announces byte negative needed → rest.length < needed →
      Decoded (byte.toUInt8 :: rest) (.error (.truncated byte needed rest.length))
  | nonCanonical {byte : Int8} {negative : Bool} {payload : List UInt8} {value : Int64}
      (rest : List UInt8) :
      Announces byte negative payload.length → (∀ i, encode i ≠ byte.toUInt8 :: payload) →
      value.toUInt64.toNat = BigEndian.value (filledUp negative payload) →
      Decoded (byte.toUInt8 :: (payload ++ rest)) (.error (.nonCanonical byte value))

theorem Announces.ofByte_eq {length : Nat} (h : Announces byte negative length) :
    Head.ofByte byte.toUInt8.toInt8 = .payload negative length := by
  rw [Int8.toInt8_toUInt8]
  exact ofByte_eq_payload_iff_announces.2 h

theorem Announces.decode_eq {length : Nat} (h : Announces byte negative length)
    (rest : List UInt8) :
    decode (byte.toUInt8 :: rest)
      = if rest.length < length then .error (.truncated byte length rest.length)
        else (readPayload byte negative (rest.take length)).map (·, length + 1) := by
  rw [decode_payload h.ofByte_eq, Int8.toInt8_toUInt8]

/-- A payload is refused just if no value has it in its encoding. -/
theorem Announces.readPayload_eq_error_iff (h : Announces byte negative payload.length) :
    readPayload byte negative payload
        = .error (.nonCanonical byte (payloadValue negative payload)) ↔
      ∀ i, encode i ≠ byte.toUInt8 :: payload := by
  constructor
  · intro hread i hencode
    have hdecode := decode_encode_append i []
    rw [List.append_nil, hencode, h.decode_eq, if_neg (Nat.lt_irrefl _), List.take_length,
      hread] at hdecode
    cases hdecode
  · intro hnone
    rcases readPayload_cases byte negative payload with hread | hread
    · rw [← Int8.toInt8_toUInt8 byte] at hread
      exact absurd (encode_of_readPayload h.ofByte_eq hread).1 (hnone _)
    · exact hread

theorem decode_of_decoded {bytes : List UInt8} {outcome : Except DecodeError (Int64 × Nat)}
    (h : Decoded bytes outcome) : decode bytes = outcome := by
  cases h with
  | empty => rfl
  | value value rest =>
    rw [length_encode]
    exact decode_encode_append value rest
  | truncated hbyte hshort => rw [hbyte.decode_eq, if_pos hshort]
  | @nonCanonical byte negative payload value rest hbyte hnone hvalue =>
    have hlong : ¬ (payload ++ rest).length < payload.length := by
      rw [List.length_append]
      omega
    rw [hbyte.decode_eq, if_neg hlong, List.take_left,
      hbyte.readPayload_eq_error_iff.2 hnone, (eq_payloadValue_iff hbyte.le_eight).2 hvalue]
    rfl

theorem decoded_of_ok {bytes : List UInt8} {value : Int64} {used : Nat}
    (h : decode bytes = .ok (value, used)) : Decoded bytes (.ok (value, used)) := by
  obtain ⟨rfl, rest, rfl⟩ := decode_eq_ok_iff_append.1 h
  rw [← length_encode]
  exact .value value rest

/-- A refused payload is not there in full, or it is no part of an encoding. -/
theorem Announces.decoded_of_error {length : Nat} {cause : DecodeError}
    (h : Announces byte negative length) (hdecode : decode (byte.toUInt8 :: rest) = .error cause) :
    Decoded (byte.toUInt8 :: rest) (.error cause) := by
  rw [h.decode_eq] at hdecode
  split at hdecode
  · next hshort =>
    cases hdecode
    exact .truncated h hshort
  · next hlong =>
    obtain ⟨payload, behind, rfl, rfl⟩ :
        ∃ payload behind, payload ++ behind = rest ∧ payload.length = length :=
      ⟨rest.take length, rest.drop length, List.take_append_drop length rest,
        List.length_take_of_le (Nat.le_of_not_lt hlong)⟩
    rw [List.take_left] at hdecode
    rcases readPayload_cases byte negative payload with hread | hread
    · rw [hread] at hdecode
      cases hdecode
    · rw [hread] at hdecode
      cases hdecode
      exact .nonCanonical behind h (h.readPayload_eq_error_iff.1 hread)
        (toNat_payloadValue negative h.le_eight)

theorem decoded_decode (bytes : List UInt8) : Decoded bytes (decode bytes) := by
  cases hdecode : decode bytes with
  | ok result => exact decoded_of_ok hdecode
  | error cause =>
    cases bytes with
    | nil =>
      cases hdecode
      exact .empty
    | cons first rest =>
      cases hhead : Head.ofByte first.toInt8 with
      | single value =>
        rw [decode_single hhead] at hdecode
        cases hdecode
      | payload negative length =>
        rw [ofByte_eq_payload_iff_announces] at hhead
        rw [← UInt8.toUInt8_toInt8 first] at hdecode ⊢
        exact hhead.decoded_of_error hdecode

/-- Each byte string has one outcome. -/
theorem decoded_iff {bytes : List UInt8} {outcome : Except DecodeError (Int64 × Nat)} :
    Decoded bytes outcome ↔ decode bytes = outcome := by
  constructor
  · exact decode_of_decoded
  · rintro rfl
    exact decoded_decode bytes

/-! ## 3. More bytes -/

variable {bytes : List UInt8}

theorem decode_append_of_ok {result : Int64 × Nat} (h : decode bytes = .ok result)
    (more : List UInt8) : decode (bytes ++ more) = .ok result := by
  cases decoded_iff.2 h with
  | value value rest =>
    rw [List.append_assoc]
    exact decoded_iff.1 (.value value (rest ++ more))

theorem decode_append_of_nonCanonical {value : Int64}
    (h : decode bytes = .error (.nonCanonical byte value)) (more : List UInt8) :
    decode (bytes ++ more) = .error (.nonCanonical byte value) := by
  cases decoded_iff.2 h with
  | nonCanonical rest hbyte hnone hvalue =>
    rw [List.cons_append, List.append_assoc]
    exact decoded_iff.1 (.nonCanonical (rest ++ more) hbyte hnone hvalue)

/-- Behind a length byte, bytes are missing as long as there are fewer than it announces. -/
theorem Announces.decode_eq_truncated_iff {length needed available : Nat} {byte' : Int8}
    (h : Announces byte negative length) (rest : List UInt8) :
    decode (byte.toUInt8 :: rest) = .error (.truncated byte' needed available) ↔
      rest.length < length ∧ byte' = byte ∧ needed = length ∧ available = rest.length := by
  rw [h.decode_eq]
  split
  · next hshort => simp [hshort, eq_comm]
  · next hlong =>
    refine iff_of_false ?_ (fun hshort => hlong hshort.1)
    rcases readPayload_cases byte negative (rest.take length) with hread | hread
    · rw [hread]
      nofun
    · rw [hread]
      nofun

/-- Bytes are refused as missing if there are fewer than the length byte announces, and then
also with more bytes behind them until those are there. They are refused as not canonical if
the payload is there in full and no value has this encoding. All other outcomes are the same
with more bytes. -/
theorem decode_failures_exact (bytes more : List UInt8) :
    (decode bytes = .error .empty ↔ bytes = []) ∧
    (∀ result, decode bytes = .ok result → decode (bytes ++ more) = .ok result) ∧
    (∀ byte value, decode bytes = .error (.nonCanonical byte value) →
      decode (bytes ++ more) = .error (.nonCanonical byte value)) ∧
    (∀ byte needed available, decode bytes = .error (.truncated byte needed available) →
      bytes.head? = some byte.toUInt8 ∧ available = bytes.length - 1 ∧ available < needed ∧
      (∃ negative, Announces byte negative needed) ∧
      ∀ byte' needed' available',
        decode (bytes ++ more) = .error (.truncated byte' needed' available') ↔
          more.length < needed - available ∧ byte' = byte ∧ needed' = needed ∧
            available' = available + more.length) ∧
    (∀ byte value, decode bytes = .error (.nonCanonical byte value) ↔
      ∃ negative payload rest, Announces byte negative payload.length ∧
        bytes = byte.toUInt8 :: (payload ++ rest) ∧
        (∀ i, encode i ≠ byte.toUInt8 :: payload) ∧
        value.toUInt64.toNat = BigEndian.value (filledUp negative payload)) := by
  refine ⟨?_, fun result h => decode_append_of_ok h more,
    fun byte value h => decode_append_of_nonCanonical h more, ?_, ?_⟩
  · constructor
    · intro h
      cases decoded_iff.2 h
      rfl
    · rintro rfl
      rfl
  · intro byte needed available h
    cases decoded_iff.2 h with
    | @truncated _ negative _ rest hbyte hshort =>
      refine ⟨rfl, rfl, hshort, ⟨negative, hbyte⟩, ?_⟩
      intro byte' needed' available'
      rw [List.cons_append, hbyte.decode_eq_truncated_iff, List.length_append,
        Nat.lt_sub_iff_add_lt']
  · intro byte value
    rw [← decoded_iff]
    constructor
    · intro h
      cases h with
      | nonCanonical rest hbyte hnone hvalue => exact ⟨_, _, rest, hbyte, rfl, hnone, hvalue⟩
    · rintro ⟨negative, payload, rest, hbyte, rfl, hnone, hvalue⟩
      exact .nonCanonical rest hbyte hnone hvalue

/-- One byte of 256 is missing, and then none is. A payload with a zero too many stays refused. -/
theorem decode_failures_exact_oneMissing :
    decode [142, 1] = .error (.truncated (-114) 2 1) ∧
    (∀ byte needed available, decode [142, 1, 0] ≠ .error (.truncated byte needed available)) ∧
    decode [142, 0, 5, 9] = .error (.nonCanonical (-114) 5) := by
  have hshort : decode [142, 1] = .error (.truncated (-114) 2 1) := by rfl
  have hrefused : decode [142, 0, 5] = .error (.nonCanonical (-114) 5) := by rfl
  obtain ⟨-, -, -, htruncated, -⟩ := decode_failures_exact [142, 1] [0]
  obtain ⟨-, -, -, -, hmore⟩ := htruncated _ _ _ hshort
  obtain ⟨-, -, hnonCanonical, -⟩ := decode_failures_exact [142, 0, 5] [9]
  refine ⟨hshort, ?_, hnonCanonical _ _ hrefused⟩
  intro byte needed available h
  exact absurd ((hmore _ _ _).1 h).1 (by decide)

end Varint

end ExternalSort
