import ExternalSort.Proofs.Merge.FanIns

/-!
# No merge takes fewer passes

`Merges` are all the ways to merge segments into one: the sizes of the passes may be
chosen freely, as long as each pass is legal. A pass removes at most `factor - 1`
segments, so no choice ends before the passes together can have removed all segments
but one (`Merges.passCount_le`). Both policies end just then
(`schedule_fewest_passes`).
-/

namespace ExternalSort.Merge

/-! ## 1. All ways to merge -/

/-- Passes of these sizes merge a number of segments into one. Each of them merges at
least two segments, and no more than the factor allows or are left. -/
inductive Merges (factor : Nat) : Nat → List Nat → Prop
  | done : Merges factor 1 []
  | pass {segments fanIn : Nat} {rest : List Nat} :
      2 ≤ fanIn → fanIn ≤ factor → fanIn ≤ segments →
      Merges factor (segments - (fanIn - 1)) rest → Merges factor segments (fanIn :: rest)

/-- The sizes of legal passes are such a way. -/
theorem Reduction.merges {factor number segments : Nat} {passes : List Pass}
    (h : Reduction factor number segments passes) :
    Merges factor segments (passes.map Pass.fanIn) := by
  induction h with
  | done => exact .done
  | merge htwo hfactor hsegments _ ih => exact .pass htwo hfactor hsegments ih

namespace Merges

variable {factor segments : Nat} {fanIns : List Nat}

/-- Each pass removes at most as many segments as a full one. -/
theorem segments_le (h : Merges factor segments fanIns) :
    segments ≤ fanIns.length * (factor - 1) + 1 := by
  induction h with
  | done => exact Nat.le_add_left 1 _
  | @pass segments fanIn rest _ hfactor _ _ ih =>
    have hremoved : fanIn - 1 ≤ factor - 1 := Nat.sub_le_sub_right hfactor 1
    rw [List.length_cons, Nat.succ_mul]
    omega

theorem passCount_le (hfactor : 2 ≤ factor) (h : Merges factor segments fanIns) :
    passCount factor segments ≤ fanIns.length :=
  (ceilDiv_le_iff (Nat.sub_pos_of_lt hfactor)).2 (Nat.sub_le_of_le_add h.segments_le)

end Merges

/-! ## 2. The policies -/

theorem length_passList_le (policy : Policy) {factor segments : Nat}
    (h : Mergeable factor segments) {fanIns : List Nat} (hfanIns : Merges factor segments fanIns) :
    (passList policy factor segments).length ≤ fanIns.length := by
  rw [h.length_passList]
  obtain ⟨-, -, rfl | ⟨hfactor, -⟩⟩ := h
  · rw [passCount_of_le factor (Nat.le_refl 1)]
    exact Nat.zero_le _
  · exact hfanIns.passCount_le hfactor

/-- Where a schedule succeeds, its passes are one way to merge all segments, and no way
takes fewer passes. -/
theorem schedule_fewest_passes {policy : Policy} {factor segments : Nat} {log : Log}
    {trace : Trace} (h : (Attempt.after (schedule policy factor segments) log).1 = .ok trace) :
    Merges factor segments trace.fanIns ∧
      ∀ fanIns, Merges factor segments fanIns → trace.passes.length ≤ fanIns.length := by
  obtain ⟨hmergeable, rfl⟩ := schedule_eq_ok_iff.1 h
  constructor
  · exact (reduction_passList policy hmergeable).merges
  · intro fanIns hfanIns
    exact length_passList_le policy hmergeable hfanIns

/-- With a factor of five, no way to merge 23 segments takes fewer than six passes. -/
theorem schedule_fewest_passes_five_twentyThree :
    ∃ trace, (Attempt.after (schedule .remainderFirst 5 23) #[]).1 = .ok trace ∧
      Merges 5 23 trace.fanIns ∧ ∀ fanIns, Merges 5 23 fanIns → 6 ≤ fanIns.length := by
  have hmergeable : Mergeable 5 23 := ⟨by decide, by decide, .inr ⟨by decide, by decide⟩⟩
  have hschedule : (Attempt.after (schedule .remainderFirst 5 23) #[]).1
      = .ok ⟨.remainderFirst, 5, 23, passList .remainderFirst 5 23⟩ :=
    schedule_eq_ok_iff.2 ⟨hmergeable, rfl⟩
  have hlength : (passList .remainderFirst 5 23).length = 6 := by
    rw [passList_of_two_le (by decide), length_passesFrom .remainderFirst _ (by decide)]
    decide
  obtain ⟨hmerges, hfewest⟩ := schedule_fewest_passes hschedule
  exact ⟨_, hschedule, hmerges, fun fanIns h => hlength ▸ hfewest fanIns h⟩

end ExternalSort.Merge
