import ExternalSort.Proofs.Model.Plan
import ExternalSort.Proofs.RecordSize

/-!
# Sweeps

A sweep sizes the record once and then makes one prediction after the other. No prediction
depends on those before it. So a sweep goes on as long as predictions can be made
(`after_predictAll`), and it ends with the first count that has none; what was told of the
counts before that one stays told (`after_predictAll_of_first`).

`sweep_pointwise`: a sweep gives the predictions for all counts in their order, or the error
of the first count without one.
-/

namespace ExternalSort.Model

variable {model : Model} {size : RecordSize}

/-! ## 1. One prediction -/

/-- All numbers of the prediction for a count can be reported. -/
def IsPredictable (model : Model) (size : RecordSize) (records : UInt64) : Prop :=
  (model.accountant.totals records.toNat size).IsReportable

/-- A count with the prediction for it, however large its numbers are. -/
def entry (model : Model) (size : RecordSize) (records : UInt64) : UInt64 × Spill.Prediction :=
  (records, model.accountant.totals records.toNat size)

/-- The event that goes with a prediction. -/
def entryEvent (model : Model) (size : RecordSize) (entry : UInt64 × Spill.Prediction) : Event :=
  .spillsPredicted entry.1.toNat size.bufferFootprint model.accountant.thresholdBytes
    entry.2.spillFiles entry.2.materializedBytes

/-- What a listener hears of a prediction. -/
def entryTelling (model : Model) (size : RecordSize) (entry : UInt64 × Spill.Prediction) :
    Telling where
  level := .debug
  message := "predicted spills"
  fields :=
    [("record_count", .count entry.1.toNat), ("buffer_footprint", .count size.bufferFootprint),
      ("threshold_bytes", .number model.accountant.thresholdBytes),
      ("num_spill_files", .count entry.2.spillFiles),
      ("materialized_bytes", .count entry.2.materializedBytes)]

variable {records : UInt64} {counts earlier : List UInt64}

theorem after_predict_of_isPredictable (h : model.IsPredictable size records) (log : Log) :
    Attempt.after (model.predict records size) log
      = (.ok (model.accountant.totals records.toNat size),
          log.push (model.entryEvent size (model.entry size records))) := by
  have hforecast := Spill.Accountant.forecast_eq_ok_iff.2 ⟨h, rfl⟩
  rw [predict, Attempt.after_adapt, Spill.Accountant.predict, Attempt.after_bind,
    Attempt.after_liftExcept, hforecast]
  rfl

theorem after_predict_of_not_isPredictable (h : ¬model.IsPredictable size records) (log : Log) :
    Attempt.after (model.predict records size) log
      = (.error (.spill (.totalTooLarge records)), log) := by
  have hforecast := Spill.Accountant.forecast_eq_error_iff.2 ⟨h, rfl⟩
  rw [predict, Attempt.after_adapt, Spill.Accountant.predict, Attempt.after_bind,
    Attempt.after_liftExcept, hforecast]
  rfl

theorem isPredictable_iff (log : Log) :
    model.IsPredictable size records ↔
      ∃ prediction, (Attempt.after (model.predict records size) log).1 = .ok prediction := by
  by_cases h : model.IsPredictable size records
  · rw [after_predict_of_isPredictable h]
    exact iff_of_true h ⟨_, rfl⟩
  · rw [after_predict_of_not_isPredictable h]
    exact iff_of_false h nofun

theorem spill_of_plan_eq_ok {workload : Workload} {plan : Plan} {log : Log}
    (hplan : (Attempt.after (model.plan workload) log).1 = .ok plan)
    (hsize : RecordSize.ofLengths workload.keyBytes workload.valueBytes = .ok size) :
    plan.spill = model.accountant.totals workload.records.toNat size := by
  obtain ⟨size', hsize', -, -, rfl⟩ := plan_eq_ok_iff.1 hplan
  rw [hsize] at hsize'
  cases hsize'
  rfl

/-! ## 2. Predictions in a row -/

/-- The predictions for records of one size, one after the other. -/
def predictAll (model : Model) (size : RecordSize) (counts : List UInt64) :
    Reported ModelError (List (UInt64 × Spill.Prediction)) :=
  counts.mapM fun records => do return (records, ← model.predict records size)

/-- What has been told after these counts. -/
def toldAfter (model : Model) (size : RecordSize) (log : Log) (counts : List UInt64) : Log :=
  log ++ ((counts.map (model.entry size)).map (model.entryEvent size)).toArray

theorem toList_toldAfter (log : Log) (counts : List UInt64) :
    (model.toldAfter size log counts).toList
      = log.toList ++ (counts.map (model.entry size)).map (model.entryEvent size) := by
  rw [toldAfter, Array.toList_append]

theorem map_telling_toldAfter (log : Log) (counts : List UInt64) :
    (model.toldAfter size log counts).toList.map Event.telling
      = log.toList.map Event.telling
        ++ (counts.map (model.entry size)).map (model.entryTelling size) := by
  rw [toList_toldAfter, List.map_append, List.map_map (f := model.entryEvent size)]
  rfl

theorem after_predictAll (h : ∀ records ∈ counts, model.IsPredictable size records) (log : Log) :
    Attempt.after (model.predictAll size counts) log
      = (.ok (counts.map (model.entry size)), model.toldAfter size log counts) := by
  induction counts generalizing log with
  | nil => exact Prod.ext rfl Array.append_empty.symm
  | cons records counts ih =>
    obtain ⟨hfirst, hrest⟩ := List.forall_mem_cons.1 h
    have htold : model.toldAfter size
        (log.push (model.entryEvent size (model.entry size records))) counts
        = model.toldAfter size log (records :: counts) := by
      rw [← Array.toList_inj]
      simp only [toldAfter, Array.toList_append, Array.toList_push, List.append_assoc]
      rfl
    rw [predictAll] at ih
    rw [predictAll, List.mapM_cons, Attempt.after_bind, Attempt.after_bind,
      after_predict_of_isPredictable hfirst]
    simp only [Attempt.after_pure, Attempt.after_bind, ih hrest, htold]
    rfl

theorem after_predictAll_of_first (h : ∀ records ∈ earlier, model.IsPredictable size records)
    (hbad : ¬model.IsPredictable size records) (later : List UInt64) (log : Log) :
    Attempt.after (model.predictAll size (earlier ++ records :: later)) log
      = (.error (.spill (.totalTooLarge records)), model.toldAfter size log earlier) := by
  have hearlier := after_predictAll h log
  rw [predictAll] at hearlier
  rw [predictAll, List.mapM_append, Attempt.after_bind, hearlier]
  simp only [List.mapM_cons, Attempt.after_bind, after_predict_of_not_isPredictable hbad]

/-! ## 3. Sweeps -/

variable {keyBytes valueBytes : Int64}

theorem after_sweep_of_size_error {cause : SizeError}
    (h : RecordSize.ofLengths keyBytes valueBytes = .error cause) (counts : List UInt64)
    (log : Log) :
    Attempt.after (model.sweep counts keyBytes valueBytes) log = (.error (.size cause), log) := by
  have hsize := recordSize_eq_error_iff.2 ⟨cause, h, rfl⟩
  rw [sweep, Attempt.after_bind, Attempt.after_liftExcept, hsize]

theorem after_sweep_of_size (hsize : RecordSize.ofLengths keyBytes valueBytes = .ok size)
    (counts : List UInt64) (log : Log) :
    Attempt.after (model.sweep counts keyBytes valueBytes) log
      = Attempt.after (model.predictAll size counts) log := by
  rw [sweep, Attempt.after_bind, Attempt.after_liftExcept, recordSize_eq_ok_iff.2 hsize]
  rfl

theorem after_sweep_of_isPredictable
    (hsize : RecordSize.ofLengths keyBytes valueBytes = .ok size)
    (h : ∀ records ∈ counts, model.IsPredictable size records) (log : Log) :
    Attempt.after (model.sweep counts keyBytes valueBytes) log
      = (.ok (counts.map (model.entry size)), model.toldAfter size log counts) :=
  (after_sweep_of_size hsize counts log).trans (after_predictAll h log)

/-- The first count without a prediction ends a sweep, whatever stands behind it. -/
theorem after_sweep_of_first (hsize : RecordSize.ofLengths keyBytes valueBytes = .ok size)
    (h : ∀ records ∈ earlier, model.IsPredictable size records)
    (hbad : ¬model.IsPredictable size records) (later : List UInt64) (log : Log) :
    Attempt.after (model.sweep (earlier ++ records :: later) keyBytes valueBytes) log
      = (.error (.spill (.totalTooLarge records)), model.toldAfter size log earlier) :=
  (after_sweep_of_size hsize _ log).trans (after_predictAll_of_first h hbad later log)

/-- The entries of a sweep belong to its counts, one to each and in their order, and each of
them has the prediction that is made for its count alone. -/
structure IsSweep (model : Model) (keyBytes valueBytes : Int64) (size : RecordSize)
    (counts : List UInt64) (entries : List (UInt64 × Spill.Prediction)) : Prop where
  counts_eq : entries.map Prod.fst = counts
  predict_eq (log : Log) : ∀ entry ∈ entries,
    (Attempt.after (model.predict entry.1 size) log).1 = .ok entry.2
  /-- A plan for this count has the same prediction. -/
  plan_spill_eq (log : Log) : ∀ entry ∈ entries, ∀ plan,
    (Attempt.after (model.plan ⟨entry.1, keyBytes, valueBytes⟩) log).1 = .ok plan →
      plan.spill = entry.2

theorem isSweep_map (hsize : RecordSize.ofLengths keyBytes valueBytes = .ok size)
    (h : ∀ records ∈ counts, model.IsPredictable size records) :
    model.IsSweep keyBytes valueBytes size counts (counts.map (model.entry size)) where
  counts_eq := by
    rw [List.map_map]
    exact List.map_id counts
  predict_eq log := by
    intro entry hentry
    obtain ⟨records, hrecords, rfl⟩ := List.mem_map.1 hentry
    rw [Model.entry, after_predict_of_isPredictable (h records hrecords)]
  plan_spill_eq log := by
    intro entry hentry plan hplan
    obtain ⟨records, -, rfl⟩ := List.mem_map.1 hentry
    rw [Model.entry] at hplan ⊢
    rw [spill_of_plan_eq_ok hplan hsize]

/-- A negative length ends a sweep before its first count. Otherwise a sweep succeeds just if
there is a prediction for every count. Then it gives all of them in order, and tells of all
of them. A sweep that fails has the error of the first count without a prediction, and it has
told of the predictions for the counts before that one. -/
theorem sweep_pointwise (model : Model) (counts : List UInt64) (keyBytes valueBytes : Int64)
    (log : Log) :
    let sweep := Attempt.after (model.sweep counts keyBytes valueBytes) log
    (keyBytes < 0 → sweep = (.error (.size ⟨.keyBytes, keyBytes⟩), log)) ∧
    (0 ≤ keyBytes → valueBytes < 0 → sweep = (.error (.size ⟨.valueBytes, valueBytes⟩), log)) ∧
    (0 ≤ keyBytes → 0 ≤ valueBytes →
      ∃ size, RecordSize.ofLengths keyBytes valueBytes = .ok size ∧
        ((∃ entries, sweep.1 = .ok entries) ↔ ∀ records ∈ counts, ∃ prediction,
          (Attempt.after (model.predict records size) log).1 = .ok prediction) ∧
        (∀ entries, sweep.1 = .ok entries →
          model.IsSweep keyBytes valueBytes size counts entries ∧
          sweep.2.toList = log.toList ++ entries.map (model.entryEvent size) ∧
          sweep.2.toList.map Event.telling
            = log.toList.map Event.telling ++ entries.map (model.entryTelling size)) ∧
        ∀ error, sweep.1 = .error error →
          ∃ earlier records later entries, counts = earlier ++ records :: later ∧
            (Attempt.after (model.predict records size) log).1 = .error error ∧
            model.IsSweep keyBytes valueBytes size earlier entries ∧
            sweep.2.toList = log.toList ++ entries.map (model.entryEvent size) ∧
            sweep.2.toList.map Event.telling
              = log.toList.map Event.telling ++ entries.map (model.entryTelling size)) := by
  intro sweep
  have hzero : (0 : Int64).toInt = 0 := rfl
  refine ⟨?_, ?_, ?_⟩
  · intro hkey
    exact after_sweep_of_size_error
      (RecordSize.ofLengths_eq_error_iff.2 (.inl ⟨hkey, rfl⟩)) counts log
  · intro hkey hvalue
    exact after_sweep_of_size_error
      (RecordSize.ofLengths_eq_error_iff.2 (.inr ⟨hkey, hvalue, rfl⟩)) counts log
  intro hkey hvalue
  rw [Int64.le_iff_toInt_le, hzero] at hkey hvalue
  obtain ⟨size, hsize⟩ : ∃ size, RecordSize.ofLengths keyBytes valueBytes = .ok size :=
    ⟨_, RecordSize.ofLengths_of_nonneg hkey hvalue⟩
  refine ⟨size, hsize, ?_⟩
  simp only [← isPredictable_iff]
  by_cases hall : ∀ records ∈ counts, model.IsPredictable size records
  · obtain ⟨houtcome, htold⟩ : sweep.1 = _ ∧ sweep.2 = _ :=
      Prod.ext_iff.1 (after_sweep_of_isPredictable hsize hall log)
    refine ⟨iff_of_true ⟨_, houtcome⟩ hall, ?_, ?_⟩
    · intro entries hentries
      obtain rfl := Except.ok.inj (houtcome.symm.trans hentries)
      rw [htold]
      exact ⟨isSweep_map hsize hall, toList_toldAfter log counts, map_telling_toldAfter log counts⟩
    · intro error herror
      cases houtcome.symm.trans herror
  · -- One of the counts is the first that has no prediction.
    obtain ⟨earlier, records, later, rfl, hearlier, hbad⟩ := exists_first_not hall
    obtain ⟨houtcome, htold⟩ : sweep.1 = _ ∧ sweep.2 = _ :=
      Prod.ext_iff.1 (after_sweep_of_first hsize hearlier hbad later log)
    refine ⟨iff_of_false ?_ hall, ?_, ?_⟩
    · rintro ⟨entries, hentries⟩
      cases houtcome.symm.trans hentries
    · intro entries hentries
      cases houtcome.symm.trans hentries
    · intro error herror
      obtain rfl := Except.error.inj (houtcome.symm.trans herror)
      rw [htold]
      refine ⟨earlier, records, later, _, rfl, ?_, isSweep_map hsize hearlier,
        toList_toldAfter log earlier, map_telling_toldAfter log earlier⟩
      rw [after_predict_of_not_isPredictable hbad]

/-- A negative length is refused even without a count. No records, asked for twice, have two
predictions, and the first one stays told if the largest count is asked for next. -/
theorem sweep_pointwise_largestCount :
    ∃ model : Model,
      Attempt.after (model.sweep [] (-1) 3) #[] = (.error (.size ⟨.keyBytes, -1⟩), #[]) ∧
      Attempt.after (model.sweep [] 3 (-1)) #[] = (.error (.size ⟨.valueBytes, -1⟩), #[]) ∧
      (∃ size entries, (Attempt.after (model.sweep [0, 0] 3 3) #[]).1 = .ok entries ∧
        model.IsSweep 3 3 size [0, 0] entries) ∧
      ∃ size entries,
        (Attempt.after (model.sweep [0, 18446744073709551615] 3 3) #[]).1
          = .error (.spill (.totalTooLarge 18446744073709551615)) ∧
        model.IsSweep 3 3 size [0] entries ∧
        (Attempt.after (model.sweep [0, 18446744073709551615] 3 3) #[]).2.toList
          = entries.map (model.entryEvent size) ∧
        (Attempt.after (model.sweep [0, 18446744073709551615] 3 3) #[]).2.toList.map Event.telling
          = entries.map (model.entryTelling size) := by
  let size : RecordSize := ⟨1, 1, 3, 3, 24, 8⟩
  have hvalid : ({} : Settings).IsValid := ⟨by decide, by decide, by decide, by decide, by decide⟩
  obtain ⟨accountant, haccountant⟩ := hvalid.exists_accountant
  let model : Model := ⟨{}, accountant, haccountant⟩
  have hsize : RecordSize.ofLengths 3 3 = .ok size := by decide
  have hzero : model.IsPredictable size 0 := accountant.isReportable_totals_zero size
  have hlargest : ¬model.IsPredictable size 18446744073709551615 := by
    rw [IsPredictable, Spill.Accountant.isReportable_totals_iff]
    rintro ⟨-, hmaterialized, -⟩
    exact absurd (Nat.le_of_add_right_le hmaterialized) (by decide)
  have hfirst : ∀ records ∈ [(0 : UInt64)], model.IsPredictable size records :=
    List.forall_mem_singleton.2 hzero
  have hboth : ∀ records ∈ [(0 : UInt64), 0], model.IsPredictable size records :=
    List.forall_mem_cons.2 ⟨hzero, hfirst⟩
  refine ⟨model, ?_, ?_, ?_, ?_⟩
  · exact (sweep_pointwise model [] (-1) 3 #[]).1 (by decide)
  · exact (sweep_pointwise model [] 3 (-1) #[]).2.1 (by decide) (by decide)
  · obtain ⟨size', -, -, hentries, -⟩ :=
      (sweep_pointwise model [0, 0] 3 3 #[]).2.2 (by decide) (by decide)
    have hsweep := congrArg Prod.fst (after_sweep_of_isPredictable hsize hboth #[])
    exact ⟨size', _, hsweep, (hentries _ hsweep).1⟩
  · obtain ⟨size', hsize', -, -, herror⟩ :=
      (sweep_pointwise model [0, 18446744073709551615] 3 3 #[]).2.2 (by decide) (by decide)
    obtain rfl : size = size' := Except.ok.inj (hsize.symm.trans hsize')
    have hsweep : (Attempt.after (model.sweep [0, 18446744073709551615] 3 3) #[]).1
        = .error (.spill (.totalTooLarge 18446744073709551615)) :=
      congrArg Prod.fst (after_sweep_of_first hsize hfirst hlargest [] #[])
    obtain ⟨earlier, records, later, entries, hcounts, hrecords, hentries, htold⟩ :=
      herror _ hsweep
    obtain rfl : earlier = [0] := by
      obtain ⟨-, htooLarge⟩ := predict_eq_error_iff.1 hrecords
      cases htooLarge
      rcases earlier with _ | ⟨first, _ | ⟨second, rest⟩⟩
      · cases hcounts
      · cases hcounts
        rfl
      · simp at hcounts
    exact ⟨size, entries, hsweep, hentries, htold⟩

end ExternalSort.Model
