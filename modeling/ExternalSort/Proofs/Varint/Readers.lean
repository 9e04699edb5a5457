import ExternalSort.Proofs.Varint.Canonical
import ExternalSort.Varint.Stream

/-!
# Two readers

`decode` looks at a whole byte string and checks its length before it looks at the
payload. `readFrom` takes bytes as it goes and finds out at the end that some are
missing. `Agreement` lists what the two may answer side by side, with one rule for
each of the four outcomes of decoding, and the two always answer by one of these
rules (`agreement`).

So each answer of one reader is told by the answer of the other, and with it what
is left of the bytes (`readFrom_agrees`).
-/

namespace ExternalSort.Varint

/-- The answer of decoding beside that of reading: the value or the failure, and the
bytes that are left. -/
inductive Agreement (bytes : List UInt8) :
    Except DecodeError (Int64 × Nat) → Except StreamError Int64 × List UInt8 → Prop
  | value {value : Int64} {used : Nat} :
      used ≤ bytes.length → Agreement bytes (.ok (value, used)) (.ok value, bytes.drop used)
  /-- The length byte and its payload are taken before they are refused. -/
  | nonCanonical {byte : Int8} {value : Int64} {negative : Bool} {payload rest : List UInt8} :
      Head.ofByte byte = .payload negative payload.length →
      bytes = byte.toUInt8 :: (payload ++ rest) →
      Agreement bytes (.error (.nonCanonical byte value))
        (.error (.malformed (.nonCanonical byte value)), rest)
  | empty : Agreement bytes (.error .empty) (.error .endOfInput, [])
  | truncated {byte : Int8} {needed available : Nat} :
      Agreement bytes (.error (.truncated byte needed available)) (.error .endOfInput, [])

/-- The readers agree on all byte strings. -/
theorem agreement (bytes : List UInt8) : Agreement bytes (decode bytes) (readFrom bytes) := by
  cases bytes with
  | nil =>
    rw [readFrom_nil]
    exact .empty
  | cons byte rest =>
    cases hhead : Head.ofByte byte.toInt8 with
    | single value =>
      rw [decode_single hhead, readFrom_single hhead]
      exact .value (Nat.succ_pos _)
    | payload negative length =>
      rw [decode_payload hhead, readFrom_payload hhead]
      by_cases hshort : rest.length < length
      · rw [if_pos hshort, if_pos hshort, List.drop_of_length_le (Nat.le_of_lt hshort)]
        exact .truncated
      · have hlength : (rest.take length).length = length :=
          List.length_take_of_le (Nat.le_of_not_lt hshort)
        rw [if_neg hshort, if_neg hshort]
        rcases readPayload_cases byte.toInt8 negative (rest.take length) with hread | hread
        · rw [hread]
          exact .value (Nat.succ_le_succ (Nat.le_of_not_lt hshort))
        · have hbytes : byte :: rest
              = byte.toInt8.toUInt8 :: (rest.take length ++ rest.drop length) := by
            rw [UInt8.toUInt8_toInt8, List.take_append_drop]
          rw [hread]
          exact .nonCanonical (hlength.symm ▸ hhead) hbytes

namespace Agreement

variable {bytes : List UInt8} {decoded : Except DecodeError (Int64 × Nat)}
  {read : Except StreamError Int64 × List UInt8}

/-- The bytes that are left tell how many were taken. -/
theorem value_iff (h : Agreement bytes decoded read) (value : Int64) (used : Nat) :
    used ≤ bytes.length ∧ read = (.ok value, bytes.drop used) ↔ decoded = .ok (value, used) := by
  cases h with
  | @value value' used' hused' =>
    constructor
    · rintro ⟨hused, hread⟩
      obtain ⟨hvalue, hrest⟩ := Prod.mk.inj hread
      cases hvalue
      have hlength := congrArg List.length hrest
      rw [List.length_drop, List.length_drop] at hlength
      obtain rfl : used' = used := by omega
      rfl
    · intro hdecoded
      cases hdecoded
      exact ⟨hused', rfl⟩
  | nonCanonical => simp
  | empty => simp
  | truncated => simp

theorem nonCanonical_iff (h : Agreement bytes decoded read) (byte : Int8) (value : Int64) :
    read.1 = .error (.malformed (.nonCanonical byte value)) ↔
      decoded = .error (.nonCanonical byte value) := by
  cases h <;> simp

/-- A refused payload has been taken. -/
theorem of_nonCanonical (h : Agreement bytes decoded read) (byte : Int8) (value : Int64) :
    decoded = .error (.nonCanonical byte value) ↔
      ∃ negative payload rest, Head.ofByte byte = .payload negative payload.length ∧
        bytes = byte.toUInt8 :: (payload ++ rest) ∧
        read = (.error (.malformed (.nonCanonical byte value)), rest) := by
  constructor
  · rintro rfl
    cases h with
    | @nonCanonical _ _ negative payload rest hhead hbytes =>
      exact ⟨negative, payload, rest, hhead, hbytes, rfl⟩
  · rintro ⟨_, _, _, _, _, hread⟩
    rw [← h.nonCanonical_iff, hread]

theorem endOfInput_iff (h : Agreement bytes decoded read) :
    let short := decoded = .error .empty ∨
      ∃ byte needed available, decoded = .error (.truncated byte needed available)
    (read.1 = .error .endOfInput ↔ short) ∧ (short ↔ read = (.error .endOfInput, [])) := by
  cases h <;> simp

end Agreement

/-- Reading gives a value and leaves what is behind it exactly if decoding gives that
value and counts the bytes in front. Both refuse the same payloads, and the reader has
then taken the length byte and the payload. The reader comes to the end of the bytes
exactly where decoding finds too few of them, and it has then taken them all. -/
theorem readFrom_agrees (bytes : List UInt8) :
    (∀ value used, used ≤ bytes.length ∧ readFrom bytes = (.ok value, bytes.drop used) ↔
      decode bytes = .ok (value, used)) ∧
    (∀ byte value,
      ((readFrom bytes).1 = .error (.malformed (.nonCanonical byte value)) ↔
        decode bytes = .error (.nonCanonical byte value)) ∧
      (decode bytes = .error (.nonCanonical byte value) ↔
        ∃ negative payload rest, Head.ofByte byte = .payload negative payload.length ∧
          bytes = byte.toUInt8 :: (payload ++ rest) ∧
          readFrom bytes = (.error (.malformed (.nonCanonical byte value)), rest))) ∧
    let short := decode bytes = .error .empty ∨
      ∃ byte needed available, decode bytes = .error (.truncated byte needed available)
    ((readFrom bytes).1 = .error .endOfInput ↔ short) ∧
      (short ↔ readFrom bytes = (.error .endOfInput, [])) := by
  have hagree := agreement bytes
  exact ⟨hagree.value_iff,
    fun byte value => ⟨hagree.nonCanonical_iff byte value, hagree.of_nonCanonical byte value⟩,
    hagree.endOfInput_iff⟩

end ExternalSort.Varint
