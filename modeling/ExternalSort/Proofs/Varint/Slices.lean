import ExternalSort.Proofs.Varint.Sequence
import ExternalSort.Varint.Stream

/-!
# Writing to a slice

A slice takes as many bytes as it has room for. A value is written in two steps, and the
slice may end in front of the first one, between the two or inside the second one. In each
case it holds the beginning of the encoding, as far as that fits (`writeTo_zeroed`). The
beginning of an encoding is never taken for a value unless it is all of the encoding
(`decode_take_encode_eq_ok_iff`), so whoever finds a value in a slice finds one that was
written in full.
-/

namespace ExternalSort.Varint

variable {value : Int64}

theorem decode_take_encode_eq_ok_iff {count : Nat} {result : Int64 × Nat} :
    decode ((encode value).take count) = .ok result ↔
      encodedLength value ≤ count ∧ result = (value, encodedLength value) := by
  rcases Nat.lt_or_ge count (encodedLength value) with hshort | hlong
  · refine iff_of_false ?_ fun h => Nat.not_le.2 hshort h.1
    rcases Nat.eq_zero_or_pos count with rfl | hpos
    · nofun
    · rw [← length_encode] at hshort
      rw [decode_take_encode hpos hshort]
      nofun
  · have hdecode := decode_encode_append value []
    rw [List.append_nil] at hdecode
    rw [← length_encode] at hlong
    rw [List.take_of_length_le hlong, hdecode]
    constructor
    · intro h
      cases h
      exact ⟨length_encode value ▸ hlong, rfl⟩
    · rintro ⟨-, rfl⟩
      rfl

/-- As much of the encoding is written as fits, and the rest of the slice is as it was. -/
theorem writeTo_zeroed (value : Int64) (room : Nat) :
    let stored := min room (encodedLength value)
    writeTo (.zeroed room) value
      = (if encodedLength value ≤ room then .ok (encodedLength value) else .error .noRoom,
          ⟨(encode value).take stored, some (List.replicate (room - stored) 0)⟩) := by
  intro stored
  have hroom : (Sink.zeroed room).hasRoom (encodedLength value)
      = decide (encodedLength value ≤ room) := by
    show decide (encodedLength value ≤ (List.replicate room (0 : UInt8)).length) = _
    rw [List.length_replicate]
  have hwritten : (encode value).take room = (encode value).take stored := by
    rw [← List.take_take, ← length_encode, List.take_length]
  have hleft : room - encodedLength value = room - stored := by omega
  have hfill : (Sink.zeroed room).fill (encode value)
      = ⟨(encode value).take stored, some (List.replicate (room - stored) 0)⟩ := by
    show Sink.mk ((encode value).take (List.replicate room (0 : UInt8)).length)
      (some ((List.replicate room 0).drop (encode value).length)) = _
    rw [List.length_replicate, List.drop_replicate, length_encode, hwritten, hleft]
  rw [writeTo_eq, hroom, hfill]
  simp only [decide_eq_true_eq]

/-- Writing to a slice succeeds just if the encoding fits, and counts its bytes. In any case
the slice holds as much of the encoding as fits and is untouched behind it. A value that is
decoded from what was written is the value that was to be written, and the writing has
succeeded. -/
theorem writeTo_zeroed_exact (value : Int64) (room : Nat) :
    let outcome := (writeTo (.zeroed room) value).1
    let slice := (writeTo (.zeroed room) value).2
    let stored := min room (encodedLength value)
    (outcome = if encodedLength value ≤ room then .ok (encodedLength value) else .error .noRoom) ∧
    slice.contents = (encode value).take stored ++ List.replicate (room - stored) 0 ∧
    slice.room = room - stored ∧
    ∀ value' used, decode (slice.contents.take (room - slice.room)) = .ok (value', used) →
      outcome = .ok used ∧ value' = value := by
  intro outcome slice stored
  have hwriteTo : (outcome, slice) = _ := writeTo_zeroed value room
  obtain ⟨houtcome, hslice⟩ := Prod.mk.inj hwriteTo
  have hcontents : slice.contents
      = (encode value).take stored ++ List.replicate (room - stored) 0 := by
    rw [hslice]
    rfl
  have hroom : slice.room = room - stored := by
    rw [hslice]
    exact List.length_replicate
  refine ⟨houtcome, hcontents, hroom, ?_⟩
  intro value' used hdecode
  have hlength : ((encode value).take stored).length = room - slice.room := by
    rw [List.length_take, length_encode, hroom]
    omega
  rw [hcontents, ← hlength, List.take_left, decode_take_encode_eq_ok_iff] at hdecode
  obtain ⟨hfits, hresult⟩ := hdecode
  cases hresult
  exact ⟨houtcome.trans (if_pos (Nat.le_trans hfits (Nat.min_le_left _ _))), rfl⟩

/-- The value 256 takes three of four bytes. Two bytes hold the beginning of it, and none is
left. -/
theorem writeTo_zeroed_exact_fourBytes :
    decode ((writeTo (.zeroed 4) 256).2.contents.take 3) = .ok (256, 3) ∧
    (writeTo (.zeroed 4) 256).1 = .ok 3 ∧
    (writeTo (.zeroed 2) 256).2.contents = [142, 1] ∧ (writeTo (.zeroed 2) 256).2.room = 0 := by
  obtain ⟨-, -, -, hdecoded⟩ := writeTo_zeroed_exact 256 4
  obtain ⟨-, hcontents, hroom, -⟩ := writeTo_zeroed_exact 256 2
  have hdecode : decode ((writeTo (.zeroed 4) 256).2.contents.take 3) = .ok (256, 3) := by rfl
  exact ⟨hdecode, (hdecoded 256 3 hdecode).1, hcontents, hroom⟩

end ExternalSort.Varint
