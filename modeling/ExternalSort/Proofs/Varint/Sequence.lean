import ExternalSort.Proofs.Varint.Canonical

/-!
# Encodings one behind the other

Values are stored by writing their encodings one behind the other, and they are read
by decoding over and over until that fails. No encoding starts another one, so the
values come back in their order.

If the bytes are cut somewhere, `IsCut` says how many encodings end before the cut.
Their values come back (`decodeAll_take`), and what is left of the next encoding is
found to be too short: it is never taken for another value (`decode_take_encode`).
-/

namespace ExternalSort.Varint

/-- The encodings of values, one behind the other. -/
def encodeAll (values : List Int64) : List UInt8 := values.flatMap encode

theorem encodeAll_cons (value : Int64) (values : List Int64) :
    encodeAll (value :: values) = encode value ++ encodeAll values := rfl

theorem encodeAll_append (values values' : List Int64) :
    encodeAll (values ++ values') = encodeAll values ++ encodeAll values' :=
  List.flatMap_append

theorem encodedLength_pos (value : Int64) : 0 < encodedLength value := by
  unfold encodedLength
  split <;> exact Nat.succ_pos _

theorem used_le_of_decode {bytes : List UInt8} {value : Int64} {used : Nat}
    (h : decode bytes = .ok (value, used)) : 0 < used ∧ used ≤ bytes.length := by
  obtain ⟨rfl, rest, rfl⟩ := decode_eq_ok_iff_append.1 h
  rw [List.length_append, length_encode]
  exact ⟨encodedLength_pos value, Nat.le_add_right _ _⟩

/-- Decodes values over and over. Gives the values and the failure in the end. -/
def decodeAll (bytes : List UInt8) : List Int64 × DecodeError :=
  match _h : decode bytes with
  | .ok (value, used) =>
    let (values, cause) := decodeAll (bytes.drop used)
    (value :: values, cause)
  | .error cause => ([], cause)
termination_by bytes.length
decreasing_by
  have hused := used_le_of_decode _h
  rw [List.length_drop]
  omega

theorem decodeAll_of_error {bytes : List UInt8} {cause : DecodeError}
    (h : decode bytes = .error cause) : decodeAll bytes = ([], cause) := by
  rw [decodeAll]
  split
  · next hvalue => cases h.symm.trans hvalue
  · next herror =>
    cases h.symm.trans herror
    rfl

theorem decodeAll_encode_append (value : Int64) (rest : List UInt8) :
    decodeAll (encode value ++ rest) = (value :: (decodeAll rest).1, (decodeAll rest).2) := by
  have hdecode := decode_encode_append value rest
  rw [decodeAll]
  split
  · next hvalue =>
    cases hdecode.symm.trans hvalue
    rw [← length_encode, List.drop_left]
  · next herror => cases hdecode.symm.trans herror

/-! ## Cuts -/

/-- The beginning of an encoding is too short, and no bytes are no beginning. -/
theorem decode_take_encode {value : Int64} {present : Nat} (hpos : 0 < present)
    (hlt : present < (encode value).length) :
    decode ((encode value).take present)
      = .error (.truncated (lengthByte (value.toInt < 0) (payloadLength value))
          ((encode value).length - 1) (present - 1)) := by
  rw [length_encode] at hlt ⊢
  unfold encodedLength at hlt ⊢
  cases hband : inBand value
  · rw [hband, if_neg Bool.false_ne_true] at hlt
    obtain ⟨count, rfl⟩ : ∃ count, present = count + 1 := Nat.exists_eq_succ_of_ne_zero (by omega)
    have hshort : ((lowBytes (payloadLength value) value).take count).length = count := by
      rw [List.length_take, length_lowBytes]
      omega
    rw [encode, hband, if_neg Bool.false_ne_true, List.take_succ_cons,
      decode_payload (Head.ofByte_first value), hshort, if_pos (by omega), Int8.toInt8_toUInt8]
    rfl
  · rw [hband, if_pos rfl] at hlt
    omega

/-- Of the encodings of `values`, the first `whole` end at the cut or before it, and
no others do. -/
structure IsCut (values : List Int64) (cut whole : Nat) : Prop where
  whole_le : whole ≤ values.length
  end_le_iff : ∀ count ≤ values.length,
    (encodeAll (values.take count)).length ≤ cut ↔ count ≤ whole

theorem isCut_nil (cut : Nat) : IsCut [] cut 0 where
  whole_le := Nat.le_refl 0
  end_le_iff count hcount := by
    obtain rfl : count = 0 := Nat.le_zero.1 hcount
    exact iff_of_true (Nat.zero_le _) (Nat.le_refl 0)

/-- A cut inside the first encoding is before the end of all of them. -/
theorem isCut_zero {value : Int64} {cut : Nat} (h : cut < (encode value).length)
    (rest : List Int64) : IsCut (value :: rest) cut 0 where
  whole_le := Nat.zero_le _
  end_le_iff count _ := by
    cases count with
    | zero => exact iff_of_true (Nat.zero_le _) (Nat.le_refl 0)
    | succ count =>
      rw [List.take_succ_cons, encodeAll_cons, List.length_append]
      exact iff_of_false (by omega) (Nat.not_succ_le_zero count)

/-- A cut behind the first encoding is a cut of the others. -/
theorem IsCut.cons {values : List Int64} {cut whole : Nat} (h : IsCut values cut whole)
    (value : Int64) : IsCut (value :: values) ((encode value).length + cut) (whole + 1) where
  whole_le := Nat.succ_le_succ h.whole_le
  end_le_iff count hcount := by
    cases count with
    | zero => exact iff_of_true (Nat.zero_le _) (Nat.zero_le _)
    | succ count =>
      rw [List.take_succ_cons, encodeAll_cons, List.length_append, Nat.add_le_add_iff_left,
        Nat.add_le_add_iff_right]
      exact h.end_le_iff count (Nat.le_of_succ_le_succ hcount)

/-- Bytes that are cut give back the values in front of the cut. Then they are at
their end, or the rest of them is too short for the next value. -/
theorem decodeAll_take {values : List Int64} {cut : Nat} (h : cut ≤ (encodeAll values).length) :
    ∃ whole, IsCut values cut whole ∧
      (decodeAll ((encodeAll values).take cut)).1 = values.take whole ∧
      let cause := (decodeAll ((encodeAll values).take cut)).2
      let start := (encodeAll (values.take whole)).length
      (start = cut ∧ cause = .empty) ∨
        ∃ value, values[whole]? = some value ∧ start < cut ∧
          cause = .truncated (lengthByte (value.toInt < 0) (payloadLength value))
            ((encode value).length - 1) (cut - start - 1) := by
  induction values generalizing cut with
  | nil =>
    obtain rfl : cut = 0 := Nat.le_zero.1 h
    have hdecode : decodeAll [] = ([], .empty) := decodeAll_of_error rfl
    refine ⟨0, isCut_nil 0, ?_, .inl ⟨rfl, ?_⟩⟩
    · rw [List.take_zero, hdecode, List.take_zero]
    · rw [List.take_zero, hdecode]
  | cons value values ih =>
    rcases Nat.lt_or_ge cut (encode value).length with hinside | hbehind
    · refine ⟨0, isCut_zero hinside values, ?_⟩
      rw [encodeAll_cons, List.take_append_of_le_length (Nat.le_of_lt hinside)]
      rcases Nat.eq_zero_or_pos cut with rfl | hpos
      · have hdecode : decodeAll [] = ([], .empty) := decodeAll_of_error rfl
        rw [List.take_zero, hdecode]
        exact ⟨rfl, .inl ⟨rfl, rfl⟩⟩
      · rw [decodeAll_of_error (decode_take_encode hpos hinside)]
        exact ⟨rfl, .inr ⟨value, rfl, hpos, rfl⟩⟩
    · obtain ⟨behind, rfl⟩ := Nat.exists_eq_add_of_le hbehind
      rw [encodeAll_cons, List.length_append, Nat.add_le_add_iff_left] at h
      obtain ⟨whole, hcut, hvalues, hcause⟩ := ih h
      refine ⟨whole + 1, hcut.cons value, ?_⟩
      rw [encodeAll_cons, List.take_length_add_append, decodeAll_encode_append, List.take_succ_cons,
        encodeAll_cons, List.length_append, List.getElem?_cons_succ, hvalues]
      refine ⟨rfl, ?_⟩
      rcases hcause with ⟨hend, hempty⟩ | ⟨next, hnext, hlt, htruncated⟩
      · exact .inl ⟨by rw [hend], hempty⟩
      · refine .inr ⟨next, hnext, by omega, ?_⟩
        rw [Nat.add_sub_add_left]
        exact htruncated

end ExternalSort.Varint
