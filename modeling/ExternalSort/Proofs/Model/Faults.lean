import ExternalSort.Proofs.Merge.Legal
import ExternalSort.Proofs.Model.Display
import ExternalSort.Proofs.Model.Plan
import ExternalSort.Proofs.RecordSize

/-!
# Why a workload has no plan

`PlanFault` lists the reasons in the order of the steps of a plan: a negative length, a
total that is too large, a factor that merges nothing, too many passes. A plan fails just
for these reasons (`plan_eq_error_iff`). The other reasons to refuse a merge never come
up: valid settings have a factor, and without a spill there is still one segment
(`mergeTrace_spills_eq_error_iff`).

Where there is no reason there is a plan, and its parts belong together
(`plan_classified`).
-/

namespace ExternalSort.Model

variable {model : Model} {workload : Workload} {log : Log} {spills : Nat}

/-! ## 1. Reasons -/

/-- The workload makes this many spill files, and all of its totals can be reported. -/
def Spills (model : Model) (workload : Workload) (spills : Nat) : Prop :=
  ∃ size, RecordSize.ofLengths workload.keyBytes workload.valueBytes = .ok size ∧
    (model.accountant.totals workload.records.toNat size).IsReportable ∧
    (model.accountant.totals workload.records.toNat size).spillFiles = spills

/-- The number of passes that merge the spill files into one. -/
def mergePasses (model : Model) (spills : Nat) : Nat :=
  ⌈((spills : ℚ) - 1) / (model.settings.sortFactor.toNat - 1)⌉₊

/-- Why a workload has no plan. -/
inductive PlanFault (model : Model) (workload : Workload) : ModelError → Prop
  | negativeKey :
      workload.keyBytes < 0 →
      PlanFault model workload (.size ⟨.keyBytes, workload.keyBytes⟩)
  | negativeValue :
      0 ≤ workload.keyBytes → workload.valueBytes < 0 →
      PlanFault model workload (.size ⟨.valueBytes, workload.valueBytes⟩)
  | overflow {size : RecordSize} :
      RecordSize.ofLengths workload.keyBytes workload.valueBytes = .ok size →
      ¬(model.accountant.totals workload.records.toNat size).IsReportable →
      PlanFault model workload (.spill (.totalTooLarge workload.records))
  | cannotReduce {spills : Nat} :
      model.Spills workload spills → 2 ≤ spills → model.settings.sortFactor.toNat = 1 →
      PlanFault model workload (.merge spills (.cannotReduce spills))
  | tooManyPasses {spills : Nat} :
      model.Spills workload spills → 2 ≤ spills → 2 ≤ model.settings.sortFactor.toNat →
      2 ^ 20 < model.mergePasses spills →
      PlanFault model workload (.merge spills (.tooManyPasses spills (model.mergePasses spills)))

/-! ## 2. Plans fail for these reasons only -/

theorem sortFactor_pos (model : Model) : 1 ≤ model.settings.sortFactor.toNat :=
  (Settings.accountant_eq_ok_iff.1 model.accountant_eq).1.sortFactor_pos

/-- Spill files are merged from two on, and only two things can keep them from it. -/
theorem mergeTrace_spills_eq_error_iff {error : ModelError} :
    (Attempt.after (model.mergeTrace (max spills 1)) log).1 = .error error ↔
      2 ≤ spills ∧
        (model.settings.sortFactor.toNat = 1 ∧ error = .merge spills (.cannotReduce spills) ∨
          2 ≤ model.settings.sortFactor.toNat ∧ 2 ^ 20 < model.mergePasses spills ∧
            error = .merge spills (.tooManyPasses spills (model.mergePasses spills))) := by
  have hfactor := model.sortFactor_pos
  rw [mergeTrace_eq_error_iff]
  rcases Nat.lt_or_ge spills 2 with hfew | hmany
  · have hone : max spills 1 = 1 := max_eq_right (Nat.le_of_lt_succ hfew)
    rw [hone]
    constructor
    · rintro ⟨cause, hfault, -⟩
      cases hfault <;> omega
    · rintro ⟨hmany, -⟩
      omega
  have hspills : max spills 1 = spills := max_eq_left (Nat.le_of_succ_le hmany)
  rw [hspills]
  constructor
  · rintro ⟨cause, hfault, rfl⟩
    cases hfault with
    | zeroFactor hzero => omega
    | zeroSegments _ hzero => omega
    | cannotReduce hone _ => exact ⟨hmany, .inl ⟨hone, rfl⟩⟩
    | tooManyPasses htwo _ hpasses =>
      rw [Merge.passCount_eq_ceil htwo (Nat.le_of_succ_le hmany)] at hpasses ⊢
      exact ⟨hmany, .inr ⟨htwo, hpasses, rfl⟩⟩
  · rintro ⟨-, ⟨hone, rfl⟩ | ⟨htwo, hpasses, rfl⟩⟩
    · exact ⟨_, .cannotReduce hone hmany, rfl⟩
    · have hcount := Merge.passCount_eq_ceil htwo (Nat.le_of_succ_le hmany)
      rw [mergePasses, ← hcount] at hpasses ⊢
      exact ⟨_, .tooManyPasses htwo hmany hpasses, rfl⟩

theorem plan_eq_error_iff {error : ModelError} :
    (Attempt.after (model.plan workload) log).1 = .error error ↔
      model.PlanFault workload error := by
  simp only [Model.plan, Attempt.after_bind_eq_error_iff, Attempt.after_liftExcept,
    recordSize_eq_error_iff, recordSize_eq_ok_iff, RecordSize.ofLengths_eq_error_iff,
    predict_eq_error_iff, predict_eq_ok_iff, Spill.Accountant.forecast_eq_ok_iff,
    mergeTrace_spills_eq_error_iff, Attempt.after_pure]
  constructor
  · -- The steps in their order: one of them fails, and those before it have succeeded.
    rintro (⟨cause, ⟨hkey, rfl⟩ | ⟨hkey, hvalue, rfl⟩, rfl⟩ | ⟨size, hsize, hlater⟩)
    · exact .negativeKey hkey
    · exact .negativeValue hkey hvalue
    obtain ⟨htotals, rfl⟩ | ⟨spill, ⟨htotals, rfl⟩, hmerge⟩ := hlater
    · exact .overflow hsize htotals
    obtain ⟨hmany, ⟨hone, rfl⟩ | ⟨htwo, hpasses, rfl⟩⟩ | ⟨merge, -, hplan⟩ := hmerge
    · exact .cannotReduce ⟨size, hsize, htotals, rfl⟩ hmany hone
    · exact .tooManyPasses ⟨size, hsize, htotals, rfl⟩ hmany htwo hpasses
    · cases hplan
  · intro h
    cases h with
    | negativeKey hkey => exact .inl ⟨_, .inl ⟨hkey, rfl⟩, rfl⟩
    | negativeValue hkey hvalue => exact .inl ⟨_, .inr ⟨hkey, hvalue, rfl⟩, rfl⟩
    | overflow hsize htotals => exact .inr ⟨_, hsize, .inl ⟨htotals, rfl⟩⟩
    | cannotReduce hspills hmany hone =>
      obtain ⟨size, hsize, htotals, rfl⟩ := hspills
      exact .inr ⟨size, hsize, .inr ⟨_, ⟨htotals, rfl⟩, .inl ⟨hmany, .inl ⟨hone, rfl⟩⟩⟩⟩
    | tooManyPasses hspills hmany htwo hpasses =>
      obtain ⟨size, hsize, htotals, rfl⟩ := hspills
      exact .inr ⟨size, hsize,
        .inr ⟨_, ⟨htotals, rfl⟩, .inl ⟨hmany, .inr ⟨htwo, hpasses, rfl⟩⟩⟩⟩

/-! ## 3. Plans -/

/-- The parts of a plan belong together: the size is that of the records, the prediction
is made for that size, and the merge starts from the spill files that are predicted. -/
structure IsPlan (model : Model) (workload : Workload) (plan : Plan) : Prop where
  workload_eq : plan.workload = workload
  recordSize_eq :
    RecordSize.ofLengths workload.keyBytes workload.valueBytes = .ok plan.recordSize
  spill_eq (log : Log) :
    (Attempt.after (model.predict workload.records plan.recordSize) log).1 = .ok plan.spill
  /-- Under the policy and with the factor of the settings. -/
  merge_eq (log : Log) :
    (Attempt.after (Merge.schedule model.settings.mergePolicy model.settings.sortFactor.toNat
      (max plan.spill.spillFiles 1)) log).1 = .ok plan.merge
  finalSegments_eq : plan.merge.finalSegments = 1
  isEmpty_iff : plan.merge.isEmpty ↔ plan.spill.spillFiles ≤ 1
  says_noMergeNeeded_iff :
    "no merge needed".toList <:+: plan.display.toList ↔ plan.spill.spillFiles ≤ 1

theorem isPlan_of_plan_eq_ok {plan : Plan}
    (h : (Attempt.after (model.plan workload) log).1 = .ok plan) : model.IsPlan workload plan := by
  obtain ⟨size, hsize, htotals, hmergeable, rfl⟩ := plan_eq_ok_iff.1 h
  have hlegal : (model.planFor workload size).merge.IsLegal :=
    (Merge.reduction_passList _ hmergeable).isLegal
  have hempty : (model.planFor workload size).merge.isEmpty ↔
      (model.planFor workload size).spill.spillFiles ≤ 1 :=
    hlegal.isEmpty_iff.trans max_eq_right_iff
  exact
    { workload_eq := rfl
      recordSize_eq := hsize
      spill_eq _ := predict_eq_ok_iff.2 (Spill.Accountant.forecast_eq_ok_iff.2 ⟨htotals, rfl⟩)
      merge_eq _ := Merge.schedule_eq_ok_iff.2 ⟨hmergeable, rfl⟩
      finalSegments_eq := hlegal.finalSegments_eq
      isEmpty_iff := hempty
      says_noMergeNeeded_iff := (Plan.says_noMergeNeeded_iff _).trans hempty }

theorem IsPlan.plan_eq_ok {plan : Plan} (h : model.IsPlan workload plan) (log : Log) :
    (Attempt.after (model.plan workload) log).1 = .ok plan := by
  obtain ⟨workload', size, spill, merge⟩ := plan
  obtain rfl : workload' = workload := h.workload_eq
  simp only [Model.plan, Attempt.after_bind_eq_ok_iff, Attempt.after_liftExcept,
    recordSize_eq_ok_iff, Attempt.after_pure]
  exact ⟨size, h.recordSize_eq, spill, h.spill_eq _, merge,
    Attempt.mapError_eq_ok_iff.2 (h.merge_eq _), rfl⟩

/-- A plan fails exactly for the reasons that are listed, of which at most one applies. It
is never the factor or the number of segments being zero. Where no reason applies there is
a plan, and its parts belong together. -/
theorem plan_classified (model : Model) (workload : Workload) (log : Log) :
    let outcome := (Attempt.after (model.plan workload) log).1
    (∀ error, outcome = .error error ↔ model.PlanFault workload error) ∧
    (∀ size, RecordSize.ofLengths workload.keyBytes workload.valueBytes = .ok size →
      ∀ error, (Attempt.after (model.predict workload.records size) log).1 = .error error ↔
        ¬(model.accountant.totals workload.records.toNat size).IsReportable ∧
          error = .spill (.totalTooLarge workload.records)) ∧
    (∀ segments cause, outcome = .error (.merge segments cause) →
      cause ≠ .zeroFactor ∧ cause ≠ .zeroSegments) ∧
    ((∀ error, ¬model.PlanFault workload error) → ∃ plan, outcome = .ok plan) ∧
    ∀ plan, outcome = .ok plan → model.IsPlan workload plan := by
  intro outcome
  have hfaults : ∀ error, outcome = .error error ↔ model.PlanFault workload error :=
    fun error => plan_eq_error_iff
  refine ⟨hfaults, ?_, ?_, ?_, ?_⟩
  · intro size _ error
    exact predict_eq_error_iff
  · intro segments cause hmerge
    cases (hfaults _).1 hmerge with
    | cannotReduce | tooManyPasses => exact ⟨nofun, nofun⟩
  · intro hnone
    cases houtcome : outcome with
    | error error => exact absurd ((hfaults error).1 houtcome) (hnone error)
    | ok plan => exact ⟨plan, rfl⟩
  · intro plan hplan
    exact isPlan_of_plan_eq_ok hplan

/-- A factor of one cannot merge the two spill files of 30000 records, and nothing needs to
be merged where there are no records. -/
theorem plan_classified_factor_one :
    ∃ model : Model, model.settings.sortFactor = 1 ∧
      (Attempt.after (model.plan ⟨30000, 3, 3⟩) #[]).1 = .error (.merge 2 (.cannotReduce 2)) ∧
      ∃ plan, (Attempt.after (model.plan ⟨0, 3, 3⟩) #[]).1 = .ok plan ∧
        model.IsPlan ⟨0, 3, 3⟩ plan := by
  let settings : Settings :=
    { sortBufferMb := 1, spillPercent := ⟨0x3fe0000000000000⟩, sortFactor := 1 }
  let size : RecordSize := ⟨1, 1, 3, 3, 24, 8⟩
  have hvalid : settings.IsValid := ⟨by decide, by decide, by decide, by decide, by decide⟩
  obtain ⟨accountant, haccountant⟩ := hvalid.exists_accountant
  let model : Model := ⟨settings, accountant, haccountant⟩
  have hpartitions : accountant.partitions = 1 :=
    (Settings.accountant_eq_ok_iff.1 haccountant).2.2.2
  have hmarkers : accountant.markerBytes = 6 := by
    rw [Spill.Accountant.markerBytes, hpartitions]
    rfl
  have hthreshold : accountant.exactThreshold = 524288 := by
    have hmegabytes : settings.sortBufferMb.toNat = 1 := rfl
    rw [Settings.exactThreshold_accountant haccountant, hmegabytes, Binary64.toRat_half]
    norm_num
  have hspills : accountant.spills (30000 * 24) = 2 := by
    rw [Spill.Accountant.spills, hthreshold, Nat.ceil_eq_iff two_ne_zero]
    norm_num
  have hnone : accountant.spills (0 * 24) = 0 := by
    rw [Spill.Accountant.spills]
    norm_num
  have htotals : (accountant.totals 30000 size).IsReportable := by
    rw [Spill.Accountant.isReportable_totals_iff, hspills, hmarkers]
    exact ⟨by decide, by decide, by decide⟩
  have hnoTotals : (accountant.totals 0 size).IsReportable := by
    rw [Spill.Accountant.isReportable_totals_iff, hnone, hmarkers]
    exact ⟨by decide, by decide, by decide⟩
  obtain ⟨hfaults, -⟩ := plan_classified model ⟨30000, 3, 3⟩ #[]
  obtain ⟨-, -, -, -, hplans⟩ := plan_classified model ⟨0, 3, 3⟩ #[]
  have hplan : (Attempt.after (model.plan ⟨0, 3, 3⟩) #[]).1
      = .ok (model.planFor ⟨0, 3, 3⟩ size) := by
    have hsegments : max (accountant.spills (0 * 24)) 1 = 1 := by
      rw [hnone]
      decide
    exact plan_eq_ok_iff.2
      ⟨size, by decide, hnoTotals, ⟨model.sortFactor_pos, Nat.le_max_right _ _, .inl hsegments⟩,
        rfl⟩
  refine ⟨model, rfl, (hfaults _).2 ?_, _, hplan, hplans _ hplan⟩
  exact .cannotReduce ⟨size, by decide, htotals, hspills⟩ (by decide) rfl

end ExternalSort.Model
