import ExternalSort.Proofs.Merge.FanIns
import ExternalSort.Proofs.Model.Plan
import ExternalSort.Proofs.Spill.Monotone

/-!
# Plans grow with the work

More room in the settings and less work never cost a plan, and never make it larger
(`Model.plan_mono`). Each of the three steps of a plan is monotone by itself: the size
of a record (`RecordSize.ofLengths_mono`), the spills (`Accountant.totals_mono`), and
the merge (`Merge.Mergeable.mono`, `Merge.length_passList_mono`,
`Merge.sum_fanIn_passList_mono`), whose passes may be made under any policy.
-/

namespace ExternalSort

/-! ## 1. What is compared -/

/-- The buffer and the factor are no smaller, and there are no more partitions. The
policies may differ. -/
structure Settings.IsRoomier (roomy settings : Settings) : Prop where
  sortBufferMb_le : settings.sortBufferMb ≤ roomy.sortBufferMb
  spillPercent_atMost : settings.spillPercent.atMost roomy.spillPercent
  sortFactor_le : settings.sortFactor ≤ roomy.sortFactor
  partitions_le : roomy.partitions ≤ settings.partitions

/-- No more records, with keys and values that are no longer. -/
structure Workload.IsWithin (workload bound : Workload) : Prop where
  records_le : workload.records ≤ bound.records
  keyBytes_nonneg : 0 ≤ workload.keyBytes
  keyBytes_le : workload.keyBytes ≤ bound.keyBytes
  valueBytes_nonneg : 0 ≤ workload.valueBytes
  valueBytes_le : workload.valueBytes ≤ bound.valueBytes

/-- No number of a plan is above that of another one. -/
structure Plan.IsAtMost (plan bound : Plan) : Prop where
  spill : plan.spill.IsAtMost bound.spill
  passes_le : plan.merge.passes.length ≤ bound.merge.passes.length
  sum_fanIns_le : plan.merge.fanIns.sum ≤ bound.merge.fanIns.sum

/-! ## 2. Accountants and record sizes -/

theorem Settings.IsRoomier.accountant {settings roomy : Settings} (h : roomy.IsRoomier settings)
    {accountant roomyAccountant : Spill.Accountant}
    (haccountant : settings.accountant = .ok accountant)
    (hroomy : roomy.accountant = .ok roomyAccountant) : roomyAccountant.IsRoomier accountant where
  exactThreshold_le := by
    obtain ⟨hvalid, -⟩ := accountant_eq_ok_iff.1 haccountant
    obtain ⟨hroomyValid, -⟩ := accountant_eq_ok_iff.1 hroomy
    have hmegabytes : (settings.sortBufferMb.toNat : ℚ) ≤ roomy.sortBufferMb.toNat :=
      Nat.cast_le.2 (UInt64.le_iff_toNat_le.1 h.sortBufferMb_le)
    have hshare := Binary64.toRat_le_of_atMost hvalid.spillPercent_share
      hroomyValid.spillPercent_share h.spillPercent_atMost
    obtain ⟨-, hpos, -⟩ := settings.spillPercent.isPositiveShare_iff.1 hvalid.spillPercent_share
    rw [exactThreshold_accountant haccountant, exactThreshold_accountant hroomy]
    gcongr
  partitions_le := by
    obtain ⟨-, -, -, hpartitions⟩ := accountant_eq_ok_iff.1 haccountant
    obtain ⟨-, -, -, hroomyPartitions⟩ := accountant_eq_ok_iff.1 hroomy
    rw [hpartitions, hroomyPartitions]
    exact UInt32.le_iff_toNat_le.1 h.partitions_le

theorem Workload.IsWithin.recordSize {workload bound : Workload} (h : workload.IsWithin bound)
    {size : RecordSize} (hsize : RecordSize.ofLengths bound.keyBytes bound.valueBytes = .ok size) :
    ∃ size', RecordSize.ofLengths workload.keyBytes workload.valueBytes = .ok size' ∧
      size'.IsAtMost size :=
  RecordSize.ofLengths_mono hsize (Int64.le_iff_toInt_le.1 h.keyBytes_nonneg)
    (Int64.le_iff_toInt_le.1 h.keyBytes_le) (Int64.le_iff_toInt_le.1 h.valueBytes_nonneg)
    (Int64.le_iff_toInt_le.1 h.valueBytes_le)

/-! ## 3. Plans -/

/-- Where a plan can be made, one for less work in more room can be made too, and it is
not larger. Sizes are counted in full, so the records need not be small. -/
theorem Model.plan_mono {settings roomy : Settings} {work less : Workload}
    (hsettings : roomy.IsRoomier settings) (hwork : less.IsWithin work)
    {model roomyModel : Model} {log₁ log₂ log₃ : Log}
    (hmodel : (Attempt.after (Model.create settings) log₁).1 = .ok model)
    (hroomy : (Attempt.after (Model.create roomy) log₂).1 = .ok roomyModel)
    {plan : Plan} (hplan : (Attempt.after (model.plan work) log₃).1 = .ok plan) (log₄ : Log) :
    ∃ plan', (Attempt.after (roomyModel.plan less) log₄).1 = .ok plan' ∧ plan'.IsAtMost plan := by
  obtain rfl := create_eq_ok_iff.1 hmodel
  obtain rfl := create_eq_ok_iff.1 hroomy
  obtain ⟨size, hsize, hreportable, hmergeable, rfl⟩ := plan_eq_ok_iff.1 hplan
  obtain ⟨size', hsize', hsizes⟩ := hwork.recordSize hsize
  have haccountant := hsettings.accountant model.accountant_eq roomyModel.accountant_eq
  have hspill : (roomyModel.planFor less size').spill.IsAtMost (model.planFor work size).spill :=
    Spill.Accountant.totals_mono haccountant (UInt64.le_iff_toNat_le.1 hwork.records_le) hsizes
  have hfactors := UInt64.le_iff_toNat_le.1 hsettings.sortFactor_le
  -- Without a spill there is still one segment, so the merge never starts from nothing.
  have hpos : 1 ≤ (roomyModel.planFor less size').merge.initialSegments := Nat.le_max_right _ _
  have hsegments : (roomyModel.planFor less size').merge.initialSegments
      ≤ (model.planFor work size).merge.initialSegments :=
    max_le_max_right 1 hspill.spillFiles_le
  refine ⟨roomyModel.planFor less size', ?_, hspill, ?_, ?_⟩
  · exact plan_eq_ok_iff.2 ⟨size', hsize', hspill.isReportable hreportable,
      hmergeable.mono hfactors hpos hsegments, rfl⟩
  · exact Merge.length_passList_mono hmergeable hfactors hpos hsegments _ _
  · exact Merge.sum_fanIn_passList_mono hmergeable hfactors hpos hsegments _ _

/-- Half of a hundred megabytes fills up three times with five million records of 24
bytes. Their plan bounds that of four million shorter ones under the other policy. -/
theorem Model.plan_mono_half_buffer :
    ∃ model roomyModel plan plan',
      (Attempt.after (create { spillPercent := ⟨0x3fe0000000000000⟩ }) #[]).1 = .ok model ∧
      (Attempt.after (create { mergePolicy := .remainderLast }) #[]).1 = .ok roomyModel ∧
      (Attempt.after (model.plan ⟨5000000, 3, 3⟩) #[]).1 = .ok plan ∧
      (Attempt.after (roomyModel.plan ⟨4000000, 2, 3⟩) #[]).1 = .ok plan' ∧
      plan'.IsAtMost plan := by
  let settings : Settings := { spillPercent := ⟨0x3fe0000000000000⟩ }
  let roomy : Settings := { mergePolicy := .remainderLast }
  let size : RecordSize := ⟨1, 1, 3, 3, 24, 8⟩
  have hvalid : settings.IsValid := ⟨by decide, by decide, by decide, by decide, by decide⟩
  have hroomyValid : roomy.IsValid := ⟨by decide, by decide, by decide, by decide, by decide⟩
  obtain ⟨model, hmodel⟩ := (@create_isOk_iff #[] settings).2 hvalid
  obtain ⟨roomyModel, hroomy⟩ := (@create_isOk_iff #[] roomy).2 hroomyValid
  have hsettings := create_eq_ok_iff.1 hmodel
  have haccountant : settings.accountant = .ok model.accountant := by
    rw [← hsettings, model.accountant_eq]
  have hpartitions : model.accountant.partitions = 1 :=
    (Settings.accountant_eq_ok_iff.1 haccountant).2.2.2
  have hthreshold : model.accountant.exactThreshold = 52428800 := by
    have hmegabytes : settings.sortBufferMb.toNat = 100 := rfl
    rw [Settings.exactThreshold_accountant haccountant, hmegabytes, Binary64.toRat_half]
    norm_num
  have hspills : model.accountant.spills (5000000 * 24) ≤ 3 := by
    rw [Spill.Accountant.spills_le_iff, hthreshold]
    norm_num
  have hreportable : (model.planFor ⟨5000000, 3, 3⟩ size).spill.IsReportable := by
    refine Spill.Accountant.isReportable_totals_iff.2 ⟨?_, ?_, by decide⟩
    · exact Nat.le_trans hspills (by decide)
    · rw [Spill.Accountant.markerBytes, hpartitions]
      decide
  have hmergeable : Merge.Mergeable model.settings.sortFactor.toNat
      (model.planFor ⟨5000000, 3, 3⟩ size).merge.initialSegments := by
    have hthree : Merge.Mergeable 10 3 := ⟨by decide, by decide, .inr ⟨by decide, by decide⟩⟩
    rw [hsettings]
    exact hthree.mono (Nat.le_refl 10) (Nat.le_max_right _ _) (Nat.max_le.2 ⟨hspills, by decide⟩)
  have hplan : (Attempt.after (model.plan ⟨5000000, 3, 3⟩) #[]).1
      = .ok (model.planFor ⟨5000000, 3, 3⟩ size) :=
    plan_eq_ok_iff.2 ⟨size, by decide, hreportable, hmergeable, rfl⟩
  have hroomier : roomy.IsRoomier settings := ⟨by decide, by decide, by decide, by decide⟩
  have hwork : Workload.IsWithin ⟨4000000, 2, 3⟩ ⟨5000000, 3, 3⟩ :=
    ⟨by decide, by decide, by decide, by decide, by decide⟩
  obtain ⟨plan', hplan', hless⟩ := plan_mono hroomier hwork hmodel hroomy hplan #[]
  exact ⟨model, roomyModel, _, plan', hmodel, hroomy, hplan, hplan', hless⟩

end ExternalSort
