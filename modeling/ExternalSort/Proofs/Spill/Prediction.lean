import ExternalSort.Proofs.Spill.Words

/-!
# Predictions are exact

`Accountant.totals` are the numbers that a forecast is about, in rational
arithmetic and without a bound. A forecast gives just these numbers, or it
refuses because one of them cannot be reported (`Accountant.forecast_eq_checked`).

A prediction is a forecast that is told of, so the same holds of predictions, for
all buffers from which an accountant can be made (`Accountant.create_isOk_iff`).
-/

namespace ExternalSort.Spill

/-! ## 1. Numbers that can be reported -/

namespace Prediction

variable {records : UInt64} {prediction : Prediction}

/-- All numbers of a prediction can be reported. -/
structure IsReportable (prediction : Prediction) : Prop where
  spillFiles_le : prediction.spillFiles ≤ largestCount
  wireBytes_le : prediction.wireBytes ≤ largestCount
  materializedBytes_le : prediction.materializedBytes ≤ largestCount
  payloadBytes_le : prediction.payloadBytes ≤ largestCount

/-- The numbers one by one, each as long as it can be reported. -/
def checked (records : UInt64) (prediction : Prediction) : Except ConfigError Prediction := do
  let spillFiles ← Accountant.reportable records (countWithin? prediction.spillFiles)
  let wireBytes ← Accountant.reportable records (countWithin? prediction.wireBytes)
  let materializedBytes ← Accountant.reportable records (countWithin? prediction.materializedBytes)
  let payloadBytes ← Accountant.reportable records (countWithin? prediction.payloadBytes)
  return { spillFiles, wireBytes, materializedBytes, payloadBytes }

theorem reportable_of_le {n : Nat} (h : n ≤ largestCount) :
    Accountant.reportable records (countWithin? n) = .ok n := by
  rw [countWithin?, if_pos h]
  rfl

theorem reportable_of_lt {n : Nat} (h : largestCount < n) :
    Accountant.reportable records (countWithin? n) = .error (.totalTooLarge records) := by
  rw [countWithin?, if_neg (Nat.not_le.2 h)]
  rfl

theorem checked_of_isReportable (h : prediction.IsReportable) :
    prediction.checked records = .ok prediction := by
  rw [checked, reportable_of_le h.spillFiles_le, reportable_of_le h.wireBytes_le,
    reportable_of_le h.materializedBytes_le, reportable_of_le h.payloadBytes_le]
  rfl

/-- The first number that cannot be reported is the reason to refuse, and the
reason is the same for all of them. -/
theorem checked_of_not_isReportable (h : ¬prediction.IsReportable) :
    prediction.checked records = .error (.totalTooLarge records) := by
  unfold checked
  rcases Nat.lt_or_ge largestCount prediction.spillFiles with hspills | hspills
  · rw [reportable_of_lt hspills]
    rfl
  rw [reportable_of_le hspills]
  rcases Nat.lt_or_ge largestCount prediction.wireBytes with hwire | hwire
  · rw [reportable_of_lt hwire]
    rfl
  rw [reportable_of_le hwire]
  rcases Nat.lt_or_ge largestCount prediction.materializedBytes with hmaterialized | hmaterialized
  · rw [reportable_of_lt hmaterialized]
    rfl
  rw [reportable_of_le hmaterialized]
  rcases Nat.lt_or_ge largestCount prediction.payloadBytes with hpayload | hpayload
  · rw [reportable_of_lt hpayload]
    rfl
  exact absurd ⟨hspills, hwire, hmaterialized, hpayload⟩ h

end Prediction

/-! ## 2. Totals -/

namespace Accountant

variable {accountant : Accountant} {records : UInt64} {size : RecordSize}

/-- What a number of records makes, however much that is. -/
def totals (accountant : Accountant) (records : Nat) (size : RecordSize) : Prediction where
  spillFiles := accountant.spills (records * size.bufferFootprint)
  wireBytes := records * size.wireFootprint
  materializedBytes := records * size.wireFootprint + accountant.markerBytes
  payloadBytes := records * size.payloadBytes

/-- The wire bytes can be reported if they can with the markers. -/
theorem isReportable_totals_iff {records : Nat} :
    (accountant.totals records size).IsReportable ↔
      accountant.spills (records * size.bufferFootprint) ≤ largestCount ∧
        records * size.wireFootprint + accountant.markerBytes ≤ largestCount ∧
        records * size.payloadBytes ≤ largestCount := by
  constructor
  · rintro ⟨hspills, -, hmaterialized, hpayload⟩
    exact ⟨hspills, hmaterialized, hpayload⟩
  · rintro ⟨hspills, hmaterialized, hpayload⟩
    exact ⟨hspills, Nat.le_trans (Nat.le_add_right _ _) hmaterialized, hmaterialized, hpayload⟩

/-- No records make nothing but the markers, which can be reported for all partitions. -/
theorem isReportable_totals_zero (accountant : Accountant) (size : RecordSize) :
    (accountant.totals 0 size).IsReportable := by
  have hpartitions := accountant.partitions.toNat_lt
  have hnone : accountant.spills 0 = 0 := by
    rw [spills, Nat.cast_zero, zero_div, Nat.ceil_zero]
  have hmarkers : accountant.markerBytes ≤ largestCount := by
    rw [markerBytes, partitionMarkerBytes, largestCount]
    omega
  rw [isReportable_totals_iff, Nat.zero_mul, Nat.zero_mul, Nat.zero_mul, hnone, Nat.zero_add]
  exact ⟨Nat.zero_le _, hmarkers, Nat.zero_le _⟩

/-- A forecast gives the totals, as long as they can be reported. -/
theorem forecast_eq_checked (accountant : Accountant) (records : UInt64) (size : RecordSize) :
    accountant.forecast records size
      = (accountant.totals records.toNat size).checked records := by
  simp only [forecast, spillsFor_threshold]
  rfl

theorem forecast_eq_ok_iff {prediction : Prediction} :
    accountant.forecast records size = .ok prediction ↔
      (accountant.totals records.toNat size).IsReportable ∧
        prediction = accountant.totals records.toNat size := by
  rw [forecast_eq_checked]
  by_cases hreportable : (accountant.totals records.toNat size).IsReportable
  · rw [Prediction.checked_of_isReportable hreportable, Except.ok.injEq, eq_comm]
    exact (and_iff_right hreportable).symm
  · rw [Prediction.checked_of_not_isReportable hreportable]
    refine iff_of_false ?_ ?_
    · intro h
      cases h
    · rintro ⟨h, -⟩
      exact hreportable h

theorem forecast_eq_error_iff {cause : ConfigError} :
    accountant.forecast records size = .error cause ↔
      ¬(accountant.totals records.toNat size).IsReportable ∧ cause = .totalTooLarge records := by
  rw [forecast_eq_checked]
  by_cases hreportable : (accountant.totals records.toNat size).IsReportable
  · rw [Prediction.checked_of_isReportable hreportable]
    simp [hreportable]
  · rw [Prediction.checked_of_not_isReportable hreportable]
    simp [hreportable, eq_comm]

theorem after_predict (log : Log) :
    (Attempt.after (accountant.predict records size) log).1
      = accountant.forecast records size := by
  unfold predict
  rw [Attempt.after_bind, Attempt.after_liftExcept]
  cases accountant.forecast records size <;> rfl

/-! ## 3. Accountants -/

theorem create_eq_ok_iff {capacity : UInt64} {fraction : Binary64} {partitions : UInt32} :
    create capacity fraction partitions = .ok accountant ↔
      accountant.capacity = capacity ∧ accountant.fraction = fraction ∧
        accountant.partitions = partitions := by
  unfold create
  constructor
  · intro h
    split at h
    · cases h
    · split at h
      · cases h
      · split at h
        · cases h
        · cases h
          exact ⟨rfl, rfl, rfl⟩
  · rintro ⟨rfl, rfl, rfl⟩
    have hcapacity := accountant.capacity_pos
    have hpartitions := accountant.partitions_pos
    rw [dif_neg (by omega), dif_neg (by simp [accountant.fraction_share]), dif_neg (by omega)]

/-- An accountant is made for a buffer that holds something, a share of it that
is above zero and not above one, and an output with a partition. -/
theorem create_isOk_iff {capacity : UInt64} {fraction : Binary64} {partitions : UInt32} :
    (∃ accountant, create capacity fraction partitions = .ok accountant) ↔
      0 < capacity.toNat ∧ (fraction.isFinite ∧ 0 < fraction.toRat ∧ fraction.toRat ≤ 1) ∧
        0 < partitions.toNat := by
  constructor
  · rintro ⟨accountant, h⟩
    obtain ⟨rfl, rfl, rfl⟩ := create_eq_ok_iff.1 h
    exact ⟨accountant.capacity_pos, accountant.fraction_range, accountant.partitions_pos⟩
  · rintro ⟨hcapacity, hfraction, hpartitions⟩
    have hshare := fraction.isPositiveShare_iff.2 hfraction
    exact ⟨⟨capacity, fraction, partitions, hcapacity, hshare, hpartitions⟩,
      create_eq_ok_iff.2 ⟨rfl, rfl, rfl⟩⟩

/-! ## 4. Predictions -/

/-- A prediction gives the exact numbers if all of them can be reported, and
otherwise it names the number of records. No number on the way takes more than
128 bits. -/
theorem predict_exact (capacity : UInt64) (fraction : Binary64) (partitions : UInt32) :
    ((∃ accountant, create capacity fraction partitions = .ok accountant) ↔
      0 < capacity.toNat ∧ (fraction.isFinite ∧ 0 < fraction.toRat ∧ fraction.toRat ≤ 1) ∧
        0 < partitions.toNat) ∧
    ∀ accountant, create capacity fraction partitions = .ok accountant →
      ∀ (records : UInt64) (size : RecordSize) (log : Log),
        let spillFiles : Nat :=
          ⌈(records.toNat * size.bufferFootprint : ℚ) / (capacity.toNat * fraction.toRat)⌉₊
        let wireBytes := records.toNat * size.wireFootprint
        let materializedBytes := records.toNat * size.wireFootprint + 6 * partitions.toNat
        let payloadBytes := records.toNat * (size.keyBytes + size.valueBytes)
        let outcome := (Attempt.after (accountant.predict records size) log).1
        let fits := spillFiles < 2 ^ 64 ∧ materializedBytes < 2 ^ 64 ∧ payloadBytes < 2 ^ 64
        (fits → outcome = .ok { spillFiles, wireBytes, materializedBytes, payloadBytes }) ∧
        (¬fits → ∃ error, outcome = .error error ∧ error.field = "record_count" ∧
          error.value = toString records.toNat) ∧
        (FitsWords size → accountant.forecast? records size = some outcome) := by
  refine ⟨create_isOk_iff, ?_⟩
  intro accountant hcreate records size log
  obtain ⟨rfl, rfl, rfl⟩ := create_eq_ok_iff.1 hcreate
  intro spillFiles wireBytes materializedBytes payloadBytes outcome fits
  have hspills : spillFiles = accountant.spills (records.toNat * size.bufferFootprint) := by
    simp only [spillFiles, spills, exactThreshold, Nat.cast_mul]
  have htotals : accountant.totals records.toNat size
      = { spillFiles, wireBytes, materializedBytes, payloadBytes } := by
    rw [hspills]
    rfl
  have houtcome : outcome = (accountant.totals records.toNat size).checked records := by
    rw [← forecast_eq_checked]
    exact after_predict log
  have hfits : fits ↔ (accountant.totals records.toNat size).IsReportable := by
    rw [isReportable_totals_iff, ← hspills]
    simp only [fits, largestCount, Nat.le_sub_one_iff_lt (Nat.two_pow_pos 64)]
    rfl
  refine ⟨?_, ?_, ?_⟩
  · intro h
    rw [houtcome, Prediction.checked_of_isReportable (hfits.1 h), htotals]
  · intro h
    refine ⟨.totalTooLarge records, ?_, rfl, rfl⟩
    rw [houtcome, Prediction.checked_of_not_isReportable (mt hfits.2 h)]
  · intro h
    rw [forecast?_eq accountant records h, houtcome, forecast_eq_checked]

/-- A thousand records of 24 bytes fill the half of 480 bytes a hundred times. -/
theorem predict_exact_halfBuffer :
    create 480 ⟨0x3fe0000000000000⟩ 1 = .ok halfBuffer ∧
      (Attempt.after (halfBuffer.predict 1000 ⟨1, 1, 3, 3, 24, 8⟩) #[]).1
        = .ok ⟨100, 8000, 8006, 6000⟩ ∧
      halfBuffer.forecast? 1000 ⟨1, 1, 3, 3, 24, 8⟩ = some (.ok ⟨100, 8000, 8006, 6000⟩) := by
  have hcreate : create 480 ⟨0x3fe0000000000000⟩ 1 = .ok halfBuffer :=
    create_eq_ok_iff.2 ⟨rfl, rfl, rfl⟩
  have hthreshold : ((480 : UInt64).toNat * Binary64.toRat ⟨0x3fe0000000000000⟩ : ℚ) = 240 :=
    exactThreshold_halfBuffer
  have hspills : ⌈((1000 : UInt64).toNat * (24 : Nat) : ℚ) / 240⌉₊ = 100 := by
    have hrecords : (1000 : UInt64).toNat = 1000 := rfl
    rw [hrecords, Nat.ceil_eq_iff (by decide)]
    norm_num
  obtain ⟨-, hexact⟩ := predict_exact 480 ⟨0x3fe0000000000000⟩ 1
  obtain ⟨hfits, -, hwords⟩ := hexact halfBuffer hcreate 1000 ⟨1, 1, 3, 3, 24, 8⟩ #[]
  simp only [hthreshold, hspills] at hfits
  have hpredict := hfits (by decide)
  rw [hpredict] at hwords
  exact ⟨hcreate, hpredict, hwords ⟨by decide, by decide, by decide⟩⟩

end Accountant

end ExternalSort.Spill
