import ExternalSort.Proofs.Spill.Prediction
import ExternalSort.Settings.Basic

/-!
# Settings that can be worked with

`Settings.IsValid` are the bounds that `Settings.validate` checks one by one. Within
these bounds the buffer has as many bytes as its megabytes say, none of them lost in a
word of 64 bits (`toNat_bufferCapacity`). So the checks of an accountant find nothing
more to refuse, and it is made for just this buffer (`accountant_eq_ok_iff`,
`accountant_eq_error_iff`).

The two checks are written apart, one in megabytes and one in bytes. `accountant_agrees`
says that they accept the same settings.
-/

namespace ExternalSort.Settings

variable {settings : Settings}

/-- The bounds of the settings. -/
structure IsValid (settings : Settings) : Prop where
  sortBufferMb_pos : 0 < settings.sortBufferMb.toNat
  sortBufferMb_le : settings.sortBufferMb.toNat ≤ largestBufferMb
  spillPercent_share : settings.spillPercent.isPositiveShare
  sortFactor_pos : 0 < settings.sortFactor.toNat
  partitions_pos : 0 < settings.partitions.toNat

theorem validate_eq_ok_iff : settings.validate = .ok () ↔ settings.IsValid := by
  unfold validate
  constructor
  · intro h
    split at h
    · cases h
    split at h
    · cases h
    split at h
    · cases h
    next hshare =>
    split at h
    · cases h
    split at h
    · cases h
    exact ⟨by omega, by omega, by simpa using hshare, by omega, by omega⟩
  · rintro ⟨hmegabytes, hlargest, hshare, hfactor, hpartitions⟩
    rw [if_neg (by omega), if_neg (by omega), if_neg (by simp [hshare]), if_neg (by omega),
      if_neg (by omega)]

theorem toNat_bufferCapacity (h : settings.IsValid) :
    settings.bufferCapacity.toNat = settings.sortBufferMb.toNat * 2 ^ 20 := by
  have hle := h.sortBufferMb_le
  unfold largestBufferMb at hle
  have hshift : settings.bufferCapacity.toNat
      = settings.sortBufferMb.toNat <<< (20 % 64) % 2 ^ 64 := UInt64.toNat_shiftLeft _ _
  -- The largest number of megabytes has 44 bits, so no bit leaves the word.
  have hlt : settings.sortBufferMb.toNat * 2 ^ 20 < 2 ^ 64 := by omega
  rw [hshift, Nat.shiftLeft_eq]
  exact Nat.mod_eq_of_lt hlt

/-- Valid settings have an accountant, and no others have one. -/
theorem accountant_eq_ok_iff {accountant : Spill.Accountant} :
    settings.accountant = .ok accountant ↔
      settings.IsValid ∧ accountant.capacity = settings.bufferCapacity ∧
        accountant.fraction = settings.spillPercent ∧
        accountant.partitions = settings.partitions := by
  rw [← validate_eq_ok_iff, ← Spill.Accountant.create_eq_ok_iff]
  unfold Settings.accountant
  cases settings.validate with
  | error cause =>
    refine iff_of_false ?_ ?_
    · intro h
      cases h
    · rintro ⟨h, -⟩
      cases h
  | ok _ =>
    cases Spill.Accountant.create settings.bufferCapacity settings.spillPercent
        settings.partitions with
    | error cause =>
      refine iff_of_false ?_ ?_
      · intro h
        cases h
      · rintro ⟨-, h⟩
        cases h
    | ok made =>
      constructor
      · intro h
        cases h
        exact ⟨rfl, rfl⟩
      · rintro ⟨-, h⟩
        cases h
        rfl

theorem IsValid.exists_accountant (h : settings.IsValid) :
    ∃ accountant, settings.accountant = .ok accountant := by
  have hcapacity : 0 < settings.bufferCapacity.toNat := by
    rw [toNat_bufferCapacity h]
    exact Nat.mul_pos h.sortBufferMb_pos (Nat.two_pow_pos 20)
  exact ⟨⟨settings.bufferCapacity, settings.spillPercent, settings.partitions, hcapacity,
    h.spillPercent_share, h.partitions_pos⟩, accountant_eq_ok_iff.2 ⟨h, rfl, rfl, rfl⟩⟩

/-- What is refused is out of bounds. The accountant refuses nothing on its own. -/
theorem accountant_eq_error_iff {fault : SettingsError} :
    settings.accountant = .error fault ↔ settings.validate = .error fault := by
  cases hvalidate : settings.validate with
  | error cause =>
    have hrefused : settings.accountant = .error cause := by
      rw [Settings.accountant, hvalidate]
      rfl
    rw [hrefused, Except.error.injEq, Except.error.injEq]
  | ok _ =>
    obtain ⟨accountant, hmade⟩ := (validate_eq_ok_iff.1 hvalidate).exists_accountant
    rw [hmade]
    exact iff_of_false nofun nofun

/-- The buffer spills at its share of the megabytes. -/
theorem exactThreshold_accountant {accountant : Spill.Accountant}
    (h : settings.accountant = .ok accountant) :
    accountant.exactThreshold
      = settings.sortBufferMb.toNat * 2 ^ 20 * settings.spillPercent.toRat := by
  obtain ⟨hvalid, hcapacity, hfraction, -⟩ := accountant_eq_ok_iff.1 h
  rw [Spill.Accountant.exactThreshold, hcapacity, hfraction, toNat_bufferCapacity hvalid]
  push_cast
  rfl

/-- Settings have an accountant unless they are out of bounds, and then the fault is the one
that the bounds name. The accountant has all bytes of the megabytes, and a threshold that is
above zero and not above these bytes. -/
theorem accountant_agrees (settings : Settings) :
    (∀ fault, settings.accountant = .error fault ↔ settings.validate = .error fault) ∧
    (settings.validate = .ok () →
      ∃ accountant, Spill.Accountant.create settings.bufferCapacity settings.spillPercent
        settings.partitions = .ok accountant) ∧
    ∀ accountant, settings.accountant = .ok accountant →
      let threshold : ℚ := accountant.threshold.bytes.toRat
      accountant.capacity.toNat = settings.sortBufferMb.toNat * 2 ^ 20 ∧
      threshold = settings.sortBufferMb.toNat * 2 ^ 20 * settings.spillPercent.toRat ∧
      0 < threshold ∧ threshold ≤ accountant.capacity.toNat := by
  refine ⟨fun fault => accountant_eq_error_iff, ?_, ?_⟩
  · intro hvalid
    obtain ⟨accountant, hmade⟩ := (validate_eq_ok_iff.1 hvalid).exists_accountant
    obtain ⟨-, hparts⟩ := accountant_eq_ok_iff.1 hmade
    exact ⟨accountant, Spill.Accountant.create_eq_ok_iff.2 hparts⟩
  · intro accountant hmade threshold
    obtain ⟨hvalid, hcapacity, -⟩ := accountant_eq_ok_iff.1 hmade
    have hthreshold : threshold = accountant.exactThreshold := accountant.toRat_threshold
    rw [hthreshold]
    refine ⟨?_, exactThreshold_accountant hmade, accountant.exactThreshold_pos,
      accountant.exactThreshold_le_capacity⟩
    rw [hcapacity, toNat_bufferCapacity hvalid]

/-- The largest buffer has an accountant also at the least share of it. One more megabyte is
too much, and this is named before a share that is no number. -/
theorem accountant_agrees_largestBuffer :
    let largest : Settings := { sortBufferMb := 17592186044415, spillPercent := ⟨1⟩ }
    let larger : Settings := { sortBufferMb := 17592186044416, spillPercent := .nan }
    (∃ accountant, largest.accountant = .ok accountant ∧
      accountant.capacity.toNat = 17592186044415 * 2 ^ 20 ∧
      0 < accountant.threshold.bytes.toRat) ∧
    larger.accountant = .error (.bufferTooLarge 17592186044416) := by
  intro largest larger
  have hvalid : largest.IsValid := by
    constructor <;> decide
  obtain ⟨-, -, hexact⟩ := accountant_agrees largest
  obtain ⟨hrefused, -, -⟩ := accountant_agrees larger
  obtain ⟨accountant, hmade⟩ := hvalid.exists_accountant
  obtain ⟨hcapacity, -, hpos, -⟩ := hexact accountant hmade
  exact ⟨⟨accountant, hmade, hcapacity, hpos⟩, (hrefused _).2 rfl⟩

end ExternalSort.Settings
