import ExternalSort.Model
import ExternalSort.Proofs.Merge.Run
import ExternalSort.Proofs.Settings.Validation

/-!
# What a plan is made of

A plan is made in three steps: the size of a record, the spills, and the merge of
the spill files. `Model.planFor` are the numbers that they give, in rational
arithmetic and without a bound. A plan is made of just these numbers, unless one of
the steps refuses (`Model.plan_eq_ok_iff`). What was told before does not matter.
-/

namespace ExternalSort.Model

variable {model : Model} {log : Log}

theorem create_eq_ok_iff {settings : Settings} :
    (Attempt.after (create settings) log).1 = .ok model ↔ model.settings = settings := by
  unfold create
  constructor
  · intro h
    split at h
    · cases h
    · cases h
      rfl
  · rintro rfl
    split
    · next cause hcause =>
      rw [model.accountant_eq] at hcause
      cases hcause
    · next accountant haccountant =>
      rw [model.accountant_eq] at haccountant
      cases haccountant
      rfl

/-- Valid settings have a model, and no others have one. -/
theorem create_isOk_iff {settings : Settings} :
    (∃ model, (Attempt.after (create settings) log).1 = .ok model) ↔ settings.IsValid := by
  constructor
  · rintro ⟨model, h⟩
    obtain rfl := create_eq_ok_iff.1 h
    exact (Settings.accountant_eq_ok_iff.1 model.accountant_eq).1
  · intro hvalid
    obtain ⟨accountant, haccountant⟩ := hvalid.exists_accountant
    exact ⟨⟨settings, accountant, haccountant⟩, create_eq_ok_iff.2 rfl⟩

theorem recordSize_eq_ok_iff {keyBytes valueBytes : Int64} {size : RecordSize} :
    recordSize keyBytes valueBytes = .ok size ↔
      RecordSize.ofLengths keyBytes valueBytes = .ok size :=
  Attempt.mapError_eq_ok_iff

theorem recordSize_eq_error_iff {keyBytes valueBytes : Int64} {error : ModelError} :
    recordSize keyBytes valueBytes = .error error ↔
      ∃ cause, RecordSize.ofLengths keyBytes valueBytes = .error cause ∧ .size cause = error :=
  Attempt.mapError_eq_error_iff

theorem predict_eq_ok_iff {records : UInt64} {size : RecordSize} {prediction : Spill.Prediction} :
    (Attempt.after (model.predict records size) log).1 = .ok prediction ↔
      model.accountant.forecast records size = .ok prediction := by
  rw [predict, Attempt.after_adapt, Attempt.mapError_eq_ok_iff, Spill.Accountant.after_predict]

theorem predict_eq_error_iff {records : UInt64} {size : RecordSize} {error : ModelError} :
    (Attempt.after (model.predict records size) log).1 = .error error ↔
      ¬(model.accountant.totals records.toNat size).IsReportable ∧
        error = .spill (.totalTooLarge records) := by
  simp only [predict, Attempt.after_adapt, Attempt.mapError_eq_error_iff,
    Spill.Accountant.after_predict, Spill.Accountant.forecast_eq_error_iff]
  constructor
  · rintro ⟨cause, ⟨htotals, rfl⟩, rfl⟩
    exact ⟨htotals, rfl⟩
  · rintro ⟨htotals, rfl⟩
    exact ⟨_, ⟨htotals, rfl⟩, rfl⟩

theorem mergeTrace_eq_ok_iff {segments : Nat} {trace : Merge.Trace} :
    let policy := model.settings.mergePolicy
    let factor := model.settings.sortFactor.toNat
    (Attempt.after (model.mergeTrace segments) log).1 = .ok trace ↔
      Merge.Mergeable factor segments ∧
        trace = ⟨policy, factor, segments, Merge.passList policy factor segments⟩ := by
  intro policy factor
  rw [mergeTrace, Attempt.after_adapt, Attempt.mapError_eq_ok_iff, Merge.schedule_eq_ok_iff]

theorem mergeTrace_eq_error_iff {segments : Nat} {error : ModelError} :
    (Attempt.after (model.mergeTrace segments) log).1 = .error error ↔
      ∃ cause, Merge.MergeFault model.settings.sortFactor.toNat segments cause ∧
        .merge segments cause = error := by
  simp only [mergeTrace, Attempt.after_adapt, Attempt.mapError_eq_error_iff,
    Merge.schedule_eq_error_iff]

/-- The numbers of a plan for records of one size, however large they are. -/
def planFor (model : Model) (workload : Workload) (recordSize : RecordSize) : Plan :=
  let policy := model.settings.mergePolicy
  let factor := model.settings.sortFactor.toNat
  let spill := model.accountant.totals workload.records.toNat recordSize
  let segments := max spill.spillFiles 1
  { workload, recordSize, spill
    merge := ⟨policy, factor, segments, Merge.passList policy factor segments⟩ }

/-- There is a plan if the lengths are not negative, the totals can be reported, and the
spill files can be merged. Then it has just these numbers. -/
theorem plan_eq_ok_iff {workload : Workload} {plan : Plan} :
    (Attempt.after (model.plan workload) log).1 = .ok plan ↔
      ∃ size, RecordSize.ofLengths workload.keyBytes workload.valueBytes = .ok size ∧
        (model.planFor workload size).spill.IsReportable ∧
        Merge.Mergeable model.settings.sortFactor.toNat
          (model.planFor workload size).merge.initialSegments ∧
        plan = model.planFor workload size := by
  simp only [Model.plan, Attempt.after_bind_eq_ok_iff, Attempt.after_liftExcept,
    recordSize_eq_ok_iff, predict_eq_ok_iff, mergeTrace_eq_ok_iff, Attempt.after_pure,
    Spill.Accountant.forecast_eq_ok_iff]
  constructor
  · rintro ⟨size, hsize, spill, ⟨hreportable, rfl⟩, merge, ⟨hmergeable, rfl⟩, hplan⟩
    cases hplan
    exact ⟨size, hsize, hreportable, hmergeable, rfl⟩
  · rintro ⟨size, hsize, hreportable, hmergeable, rfl⟩
    exact ⟨size, hsize, _, ⟨hreportable, rfl⟩, _, ⟨hmergeable, rfl⟩, rfl⟩

end ExternalSort.Model
