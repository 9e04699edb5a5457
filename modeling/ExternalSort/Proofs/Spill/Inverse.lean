import ExternalSort.Proofs.Spill.Prediction

/-!
# Inverse sizing is exact

The numbers of records that make at most `spills` spills are those whose bytes
fit below that many thresholds. They end at one number, the boundary
(`Accountant.IsBoundary`), and the bisection finds it because holding is never
lost and found again.

Results:
1. `IsBoundary.spills_eq`, `IsBoundary.spills_succ_eq`: the boundary makes exactly
   `spills` spills and the next number one more, because a record that fits below
   the threshold adds at most one spill.
2. `recordsFor_cases`: the search is refused because of the record, or because
   the boundary is too large to be reported, or it gives the boundary.
3. `predict_of_isBoundary`: a prediction for the boundary gives the spills back.
-/

namespace ExternalSort.Spill.Accountant

variable {accountant : Accountant} {size : RecordSize}

/-! ## 1. The boundary -/

/-- `records` is the last number of records whose bytes fit below `spills`
thresholds. -/
structure IsBoundary (accountant : Accountant) (size : RecordSize) (spills records : Nat) :
    Prop where
  fits : (records * size.bufferFootprint : ℚ) ≤ spills * accountant.exactThreshold
  exceeds : spills * accountant.exactThreshold < (records + 1) * size.bufferFootprint

namespace IsBoundary

variable {spills records : Nat}

/-- There is a boundary only for records that occupy something. -/
theorem footprint_pos (h : accountant.IsBoundary size spills records) :
    (0 : ℚ) < size.bufferFootprint := by
  have hlt := h.fits.trans_lt h.exceeds
  linarith

theorem eq_floor (h : accountant.IsBoundary size spills records) :
    records = ⌊spills * accountant.exactThreshold / size.bufferFootprint⌋₊ := by
  have hpos := h.footprint_pos
  symm
  rw [Nat.floor_eq_iff (by have := accountant.exactThreshold_pos; positivity),
    le_div_iff₀ hpos, div_lt_iff₀ hpos]
  exact ⟨h.fits, h.exceeds⟩

/-- The numbers up to the boundary make no more spills, and those beyond it do. -/
theorem spills_le_iff (h : accountant.IsBoundary size spills records) (n : Nat) :
    accountant.spills (n * size.bufferFootprint) ≤ spills ↔ n ≤ records := by
  have hthreshold := accountant.exactThreshold_pos
  rw [Accountant.spills_le_iff, h.eq_floor, Nat.le_floor_iff (by positivity),
    le_div_iff₀ h.footprint_pos, Nat.cast_mul]

/-- The boundary makes all the spills: with one fewer there was still room for a
record. -/
theorem spills_eq (h : accountant.IsBoundary size spills records)
    (hrecord : (size.bufferFootprint : ℚ) ≤ accountant.exactThreshold) :
    accountant.spills (records * size.bufferFootprint) = spills := by
  apply Nat.le_antisymm ((h.spills_le_iff records).2 (Nat.le_refl records))
  by_contra hfewer
  obtain ⟨fewer, rfl⟩ : ∃ fewer, spills = fewer + 1 := Nat.exists_eq_succ_of_ne_zero (by omega)
  have hroom : accountant.spills (records * size.bufferFootprint) ≤ fewer := by omega
  rw [Accountant.spills_le_iff] at hroom
  have hexceeds := h.exceeds
  push_cast at hroom hexceeds
  linarith

/-- The next number makes one more: a record adds at most one spill. -/
theorem spills_succ_eq (h : accountant.IsBoundary size spills records)
    (hrecord : (size.bufferFootprint : ℚ) ≤ accountant.exactThreshold) :
    accountant.spills ((records + 1) * size.bufferFootprint) = spills + 1 := by
  apply Nat.le_antisymm
  · rw [Accountant.spills_le_iff]
    have hfits := h.fits
    push_cast
    linarith
  · rw [Nat.succ_le_iff, ← Nat.not_le, h.spills_le_iff]
    exact Nat.not_succ_le_self records

end IsBoundary

/-! ## 2. The search -/

/-- Bytes fit if they make no more spills, as long as so many can be reported. -/
theorem fitsIn_iff {spills bytes : Nat} (hspills : spills ≤ largestCount) :
    fitsIn accountant.threshold spills bytes ↔
      (bytes : ℚ) ≤ spills * accountant.exactThreshold := by
  rw [← Accountant.spills_le_iff, fitsIn, spillsFor_threshold, countWithin?]
  by_cases hcount : accountant.spills bytes ≤ largestCount
  · simp only [if_pos hcount, decide_eq_true_eq]
  · rw [if_neg hcount]
    refine iff_of_false Bool.false_ne_true ?_
    intro hle
    exact hcount (Nat.le_trans hle hspills)

theorem fitsIn_one_iff :
    fitsIn accountant.threshold 1 size.bufferFootprint ↔
      (size.bufferFootprint : ℚ) ≤ accountant.exactThreshold := by
  rw [fitsIn_iff (by decide), Nat.cast_one, one_mul]

theorem recordsFor_of_lt (h : accountant.exactThreshold < size.bufferFootprint)
    (spills : UInt64) :
    accountant.recordsFor spills size = .error (.recordTooLarge size.bufferFootprint) := by
  have hlarge : fitsIn accountant.threshold 1 size.bufferFootprint = false := by
    rw [← Bool.not_eq_true, fitsIn_one_iff]
    exact not_le.2 h
  simp only [recordsFor, hlarge]
  rfl

/-- If all numbers that can be reported fit, there is no last one to report. -/
theorem recordsFor_of_le (h : (size.bufferFootprint : ℚ) ≤ accountant.exactThreshold)
    {spills : UInt64} (hall : (largestCount * size.bufferFootprint : ℚ)
      ≤ spills.toNat * accountant.exactThreshold) :
    accountant.recordsFor spills size = .error (.tooManyRecords spills) := by
  have hrecord := fitsIn_one_iff.2 h
  have hlast : fitsIn accountant.threshold spills.toNat (largestCount * size.bufferFootprint) := by
    rw [fitsIn_iff (Nat.le_pred_of_lt spills.toNat_lt), Nat.cast_mul]
    exact hall
  simp only [recordsFor, hrecord, hlast]
  rfl

/-- Otherwise the search ends at the boundary. -/
theorem recordsFor_isBoundary (h : (size.bufferFootprint : ℚ) ≤ accountant.exactThreshold)
    {spills : UInt64} (hsome : spills.toNat * accountant.exactThreshold
      < (largestCount * size.bufferFootprint : ℚ)) :
    ∃ records, accountant.recordsFor spills size = .ok records ∧ records < largestCount ∧
      accountant.IsBoundary size spills.toNat records := by
  let holds (records : Nat) : Bool :=
    fitsIn accountant.threshold spills.toNat (records * size.bufferFootprint)
  have hholds (records : Nat) : holds records ↔
      (records * size.bufferFootprint : ℚ) ≤ spills.toNat * accountant.exactThreshold := by
    rw [fitsIn_iff (Nat.le_pred_of_lt spills.toNat_lt), Nat.cast_mul]
  have hfirst : holds 0 := by
    rw [hholds, Nat.cast_zero, zero_mul]
    have hthreshold := accountant.exactThreshold_pos
    positivity
  have hlast : holds largestCount = false := by
    rw [← Bool.not_eq_true, hholds]
    exact not_le.2 hsome
  obtain ⟨hfound, hnext⟩ := bisect_boundary hfirst hlast (by decide)
  have hfits := (hholds _).1 hfound
  have hexceeds : (spills.toNat * accountant.exactThreshold : ℚ)
      < (bisect holds 0 largestCount + 1) * size.bufferFootprint := by
    rw [← Bool.not_eq_true, hholds, not_le] at hnext
    exact_mod_cast hnext
  refine ⟨bisect holds 0 largestCount, ?_, ?_, hfits, hexceeds⟩
  · have hrecord := fitsIn_one_iff.2 h
    simp only [recordsFor, hrecord]
    rw [if_neg (by simp), if_neg (Bool.eq_false_iff.1 hlast)]
  · have hbelow := hfits.trans_lt hsome
    exact_mod_cast lt_of_mul_lt_mul_right hbelow (Nat.cast_nonneg _)

/-- The three outcomes of inverse sizing. -/
theorem recordsFor_cases (accountant : Accountant) (size : RecordSize) (spills : UInt64) :
    (accountant.exactThreshold < size.bufferFootprint ∧
      accountant.recordsFor spills size = .error (.recordTooLarge size.bufferFootprint)) ∨
    ((size.bufferFootprint : ℚ) ≤ accountant.exactThreshold ∧
      accountant.recordsFor spills size = .error (.tooManyRecords spills)) ∨
    ((size.bufferFootprint : ℚ) ≤ accountant.exactThreshold ∧
      ∃ records, accountant.recordsFor spills size = .ok records ∧ records < largestCount ∧
        accountant.IsBoundary size spills.toNat records) := by
  rcases lt_or_ge accountant.exactThreshold (size.bufferFootprint : ℚ) with hlarge | hrecord
  · exact Or.inl ⟨hlarge, recordsFor_of_lt hlarge spills⟩
  rcases le_or_gt (largestCount * size.bufferFootprint : ℚ)
    (spills.toNat * accountant.exactThreshold) with hall | hsome
  · exact Or.inr (Or.inl ⟨hrecord, recordsFor_of_le hrecord hall⟩)
  · exact Or.inr (Or.inr ⟨hrecord, recordsFor_isBoundary hrecord hsome⟩)

theorem isBoundary_of_recordsFor {spills : UInt64} {records : Nat}
    (h : accountant.recordsFor spills size = .ok records) :
    (size.bufferFootprint : ℚ) ≤ accountant.exactThreshold ∧ records < largestCount ∧
      accountant.IsBoundary size spills.toNat records := by
  obtain ⟨-, herror⟩ | ⟨-, herror⟩ | ⟨hrecord, found, hfound, hbelow, hboundary⟩ :=
    recordsFor_cases accountant size spills
  · cases h.symm.trans herror
  · cases h.symm.trans herror
  · cases h.symm.trans hfound
    exact ⟨hrecord, hbelow, hboundary⟩

theorem recordsFor_footprint_iff (accountant : Accountant) (size : RecordSize)
    (spills : UInt64) :
    (∃ error, accountant.recordsFor spills size = .error error ∧
        error.field = "buffer_footprint") ↔
      accountant.exactThreshold < size.bufferFootprint := by
  constructor
  · rintro ⟨error, herror, hfield⟩
    obtain ⟨hlarge, -⟩ | ⟨-, hmany⟩ | ⟨-, found, hfound, -⟩ :=
      recordsFor_cases accountant size spills
    · exact hlarge
    · cases herror.symm.trans hmany
      exact absurd hfield (show "desired_spills" ≠ "buffer_footprint" by decide)
    · cases herror.symm.trans hfound
  · intro h
    exact ⟨_, recordsFor_of_lt h spills, rfl⟩

/-! ## 3. The inverse -/

/-- A prediction for the boundary gives the spills, unless it is refused because
of the bytes of the output. -/
theorem predict_of_isBoundary {spills : UInt64} {records : Nat}
    (h : accountant.IsBoundary size spills.toNat records)
    (hrecord : (size.bufferFootprint : ℚ) ≤ accountant.exactThreshold)
    (hrecords : records < 2 ^ 64) (log : Log) :
    let outcome := (Attempt.after (accountant.predict (UInt64.ofNat records) size) log).1
    (∃ prediction, outcome = .ok prediction ∧ prediction.spillFiles = spills.toNat) ∨
      outcome = .error (.totalTooLarge (UInt64.ofNat records)) ∧
        (largestCount < records * size.wireFootprint + accountant.markerBytes ∨
          largestCount < records * size.payloadBytes) := by
  intro outcome
  have hword : (UInt64.ofNat records).toNat = records := UInt64.toNat_ofNat_of_lt' hrecords
  have houtcome : outcome
      = (accountant.totals records size).checked (UInt64.ofNat records) := by
    have hforecast := forecast_eq_checked accountant (UInt64.ofNat records) size
    rw [hword] at hforecast
    exact (after_predict log).trans hforecast
  have hspills := h.spills_eq hrecord
  by_cases hreportable : (accountant.totals records size).IsReportable
  · left
    exact ⟨_, houtcome.trans (Prediction.checked_of_isReportable hreportable), hspills⟩
  · right
    refine ⟨houtcome.trans (Prediction.checked_of_not_isReportable hreportable), ?_⟩
    have hcount : spills.toNat ≤ largestCount := Nat.le_pred_of_lt spills.toNat_lt
    rw [isReportable_totals_iff, hspills] at hreportable
    omega

/-- Inverse sizing refuses a record exactly if its footprint is above the
threshold. What it finds is the last number of records that makes no more spills.
It makes them all, the next number makes one more, and its prediction tells of
them. -/
theorem recordsFor_exact (accountant : Accountant) (size : RecordSize) (desired : UInt64) :
    let threshold : ℚ := accountant.capacity.toNat * accountant.fraction.toRat
    let spills (records : Nat) : Nat := ⌈(records * size.bufferFootprint : ℚ) / threshold⌉₊
    let answer := accountant.recordsFor desired size
    ((∃ error, answer = .error error ∧ error.field = "buffer_footprint") ↔
      threshold < size.bufferFootprint) ∧
    ∀ records, answer = .ok records →
      records < 2 ^ 64 ∧
      records = ⌊desired.toNat * threshold / size.bufferFootprint⌋₊ ∧
      (∀ n, spills n ≤ desired.toNat ↔ n ≤ records) ∧
      spills records = desired.toNat ∧
      spills (records + 1) = desired.toNat + 1 ∧
      ∀ log, let outcome := (Attempt.after (accountant.predict (UInt64.ofNat records) size) log).1
        (∃ prediction, outcome = .ok prediction ∧ prediction.spillFiles = desired.toNat) ∨
        outcome = .error (.totalTooLarge (UInt64.ofNat records)) ∧
          (2 ^ 64 ≤ records * size.wireFootprint + 6 * accountant.partitions.toNat ∨
            2 ^ 64 ≤ records * (size.keyBytes + size.valueBytes)) := by
  intro threshold spills answer
  have hspills (records : Nat) : spills records
      = accountant.spills (records * size.bufferFootprint) := by
    simp only [spills, Accountant.spills, Nat.cast_mul]
    rfl
  refine ⟨recordsFor_footprint_iff accountant size desired, ?_⟩
  intro records hanswer
  obtain ⟨hrecord, hbelow, hboundary⟩ := isBoundary_of_recordsFor hanswer
  have hrecords : records < 2 ^ 64 := hbelow.trans (by decide)
  refine ⟨hrecords, hboundary.eq_floor, ?_, ?_, ?_, ?_⟩
  · intro n
    rw [hspills]
    exact hboundary.spills_le_iff n
  · rw [hspills]
    exact hboundary.spills_eq hrecord
  · rw [hspills]
    exact hboundary.spills_succ_eq hrecord
  · exact predict_of_isBoundary hboundary hrecord hrecords

/-- A hundred halves of 480 bytes hold a thousand records of 24 bytes. -/
theorem recordsFor_exact_halfBuffer :
    halfBuffer.recordsFor 100 ⟨1, 1, 3, 3, 24, 8⟩ = .ok 1000 := by
  have hthreshold := exactThreshold_halfBuffer
  have hspills : (100 : UInt64).toNat = 100 := rfl
  obtain ⟨records, hanswer⟩ :
      ∃ records, halfBuffer.recordsFor 100 ⟨1, 1, 3, 3, 24, 8⟩ = .ok records := by
    refine (recordsFor_isBoundary ?_ ?_).imp fun _ => And.left
    · rw [hthreshold]
      norm_num
    · rw [hthreshold, hspills, largestCount]
      norm_num
  obtain ⟨-, hexact⟩ := recordsFor_exact halfBuffer ⟨1, 1, 3, 3, 24, 8⟩ 100
  obtain ⟨-, hfloor, -⟩ := hexact records hanswer
  rw [exactThreshold] at hthreshold
  rw [hanswer, hfloor, hthreshold, hspills, Except.ok.injEq, Nat.floor_eq_iff (by norm_num)]
  norm_num

end ExternalSort.Spill.Accountant
