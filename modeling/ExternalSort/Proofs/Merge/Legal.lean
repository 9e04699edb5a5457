import ExternalSort.Proofs.ExactValue
import ExternalSort.Proofs.Merge.Run

/-!
# Merges are legal reductions

A legal pass merges at least two segments, and no more than the factor allows or
are left. `Reduction` lists legal passes one after the other until one segment is
left. The passes of both policies are such a list, because a pass never merges
fewer than two segments while there are two (`Policy.two_le_fanIn`).

What a trace shows of its passes follows from that list alone, by induction on
it. `Trace.IsLegal` collects it (`Reduction.isLegal`).
-/

namespace ExternalSort.Merge

/-! ## 1. Reductions -/

/-- Legal passes, from a number of segments to one. The first pass has the given
number. -/
inductive Reduction (factor : Nat) : Nat → Nat → List Pass → Prop
  | done {number : Nat} : Reduction factor number 1 []
  | merge {number segments fanIn : Nat} {rest : List Pass} :
      2 ≤ fanIn → fanIn ≤ factor → fanIn ≤ segments →
      Reduction factor (number + 1) (Pass.merging number segments fanIn).segmentsAfter rest →
      Reduction factor number segments (Pass.merging number segments fanIn :: rest)

theorem requestedFanIn_le {factor : Nat} (hfactor : 2 ≤ factor) (passNumber segments : Nat) :
    requestedFanIn factor passNumber segments ≤ factor := by
  unfold requestedFanIn firstPassSize?
  split
  · exact Nat.le_refl factor
  · have hsurplus : (segments - 1) % (factor - 1) < factor - 1 := Nat.mod_lt _ (by omega)
    simp only [Option.getD_some]
    split <;> omega

theorem Policy.fanIn_le_factor {factor : Nat} (hfactor : 2 ≤ factor) (policy : Policy)
    (passNumber segments : Nat) : policy.fanIn factor passNumber segments ≤ factor := by
  cases policy with
  | remainderFirst =>
    exact (Nat.min_le_left _ _).trans (requestedFanIn_le hfactor passNumber segments)
  | remainderLast => exact Nat.min_le_right _ _

theorem Policy.fanIn_le_segments (policy : Policy) (factor passNumber segments : Nat) :
    policy.fanIn factor passNumber segments ≤ segments := by
  cases policy with
  | remainderFirst => exact Nat.min_le_right _ _
  | remainderLast => exact Nat.min_le_left _ _

/-- A pass leaves the segment it makes, so there is one left at least. -/
theorem one_le_segmentsAfter_nextPass {policy : Policy} {factor : Factor} {number segments : Nat}
    (h : 1 < segments) : 1 ≤ (nextPass policy factor number segments).segmentsAfter := by
  have hle := policy.fanIn_le_segments factor.value number segments
  have htwo := policy.two_le_fanIn factor.two_le h number
  simp only [nextPass, Pass.merging]
  omega

/-- The passes to come are legal and leave one segment. -/
theorem reduction_passesFrom (policy : Policy) (factor : Factor) (number : Nat) {segments : Nat}
    (h : 1 ≤ segments) :
    Reduction factor.value number segments (passesFrom policy factor number segments) := by
  induction segments using Nat.strongRecOn generalizing number with
  | ind segments ih =>
    rcases Nat.eq_or_lt_of_le h with rfl | hmany
    · rw [passesFrom_of_le (Nat.le_refl 1)]
      exact .done
    · have hle := policy.fanIn_le_segments factor.value number segments
      have htwo := policy.two_le_fanIn factor.two_le hmany number
      rw [passesFrom_of_lt hmany]
      exact .merge htwo (policy.fanIn_le_factor factor.two_le number segments) hle
        (ih _ (segmentsAfter_nextPass_lt hmany) (number + 1)
          (one_le_segmentsAfter_nextPass hmany))

/-! ## 2. What a reduction shows -/

namespace Reduction

variable {factor number segments : Nat} {passes : List Pass}

theorem map_number (h : Reduction factor number segments passes) :
    passes.map Pass.number = List.range' number passes.length := by
  induction h with
  | done => rfl
  | merge _ _ _ _ ih =>
    rw [List.map_cons, ih, List.length_cons, List.range'_succ]
    rfl

theorem segmentsBefore_head (h : Reduction factor number segments passes) :
    ∀ pass ∈ passes.head?, pass.segmentsBefore = segments := by
  cases h with
  | done =>
    intro pass hpass
    cases hpass
  | merge =>
    intro pass hpass
    cases hpass
    rfl

theorem isChain (h : Reduction factor number segments passes) :
    passes.IsChain fun pass next => next.segmentsBefore = pass.segmentsAfter := by
  induction h with
  | done => exact .nil
  | merge _ _ _ hrest ih =>
    exact List.isChain_cons.2 ⟨hrest.segmentsBefore_head, ih⟩

/-- Each pass is legal, and it removes what it merges but for one segment. -/
theorem forall_pass (h : Reduction factor number segments passes) :
    ∀ pass ∈ passes, 2 ≤ pass.fanIn ∧ pass.fanIn ≤ factor ∧
      pass.fanIn ≤ pass.segmentsBefore ∧
      pass.segmentsAfter + (pass.fanIn - 1) = pass.segmentsBefore := by
  induction h with
  | done =>
    intro pass hpass
    cases hpass
  | merge htwo hfactor hsegments _ ih =>
    intro pass hpass
    rcases List.mem_cons.1 hpass with rfl | hlater
    · refine ⟨htwo, hfactor, hsegments, ?_⟩
      simp only [Pass.merging]
      omega
    · exact ih pass hlater

theorem getD_getLast (h : Reduction factor number segments passes) :
    (passes.getLast?.map Pass.segmentsAfter).getD segments = 1 := by
  induction h with
  | done => rfl
  | @merge number segments fanIn rest _ _ _ _ ih =>
    cases rest with
    | nil => exact ih
    | cons next later =>
      rw [List.getLast?_cons_cons]
      rw [List.getLast?_eq_some_getLast (List.cons_ne_nil next later)] at ih ⊢
      exact ih

theorem eq_nil_iff (h : Reduction factor number segments passes) :
    passes = [] ↔ segments = 1 := by
  cases h with
  | done => exact iff_of_true rfl rfl
  | merge htwo _ hsegments _ =>
    refine iff_of_false (List.cons_ne_nil _ _) ?_
    omega

end Reduction

/-! ## 3. Traces -/

/-- A trace tells of legal passes that merge all of its segments into one. -/
structure Trace.IsLegal (trace : Trace) : Prop where
  /-- The passes are numbered `1, 2, 3, …`. -/
  numbers : trace.passes.map Pass.number = List.range' 1 trace.passes.length
  starts : ∀ pass ∈ trace.passes.head?, pass.segmentsBefore = trace.initialSegments
  continues : trace.passes.IsChain fun pass next => next.segmentsBefore = pass.segmentsAfter
  two_le_fanIn : ∀ pass ∈ trace.passes, 2 ≤ pass.fanIn
  fanIn_le : ∀ pass ∈ trace.passes, pass.fanIn ≤ min trace.factor pass.segmentsBefore
  /-- A sum, so nothing is cut off at zero. -/
  removes : ∀ pass ∈ trace.passes,
    pass.segmentsAfter + (pass.fanIn - 1) = pass.segmentsBefore
  finalSegments_eq : trace.finalSegments = 1
  isEmpty_iff : trace.isEmpty ↔ trace.initialSegments = 1

/-- A reduction is a legal trace. -/
theorem Reduction.isLegal {policy : Policy} {factor segments : Nat} {passes : List Pass}
    (h : Reduction factor 1 segments passes) :
    Trace.IsLegal ⟨policy, factor, segments, passes⟩ where
  numbers := h.map_number
  starts := h.segmentsBefore_head
  continues := h.isChain
  two_le_fanIn pass hpass := (h.forall_pass pass hpass).1
  fanIn_le pass hpass :=
    Nat.le_min.2 ⟨(h.forall_pass pass hpass).2.1, (h.forall_pass pass hpass).2.2.1⟩
  removes pass hpass := (h.forall_pass pass hpass).2.2.2
  finalSegments_eq := h.getD_getLast
  isEmpty_iff := List.isEmpty_iff.trans h.eq_nil_iff

/-- The passes of inputs that can be merged are a reduction. -/
theorem reduction_passList (policy : Policy) {factor segments : Nat}
    (h : Mergeable factor segments) :
    Reduction factor 1 segments (passList policy factor segments) := by
  obtain ⟨-, hsegments, rfl | ⟨hfactor, -⟩⟩ := h
  · rw [passList_one]
    exact .done
  · rw [passList_of_two_le hfactor]
    exact reduction_passesFrom policy ⟨factor, hfactor⟩ 1 hsegments

/-- The number of passes, in rational arithmetic. -/
theorem passCount_eq_ceil {factor segments : Nat} (hfactor : 2 ≤ factor)
    (hsegments : 1 ≤ segments) :
    passCount factor segments = ⌈((segments : ℚ) - 1) / (factor - 1)⌉₊ := by
  rw [passCount, ceilDiv_eq_ceil (by omega), Nat.cast_pred hsegments, Nat.cast_pred (by omega)]

/-- The bound on the passes, in rational arithmetic. -/
theorem mergeable_iff {factor segments : Nat} :
    Mergeable factor segments ↔
      1 ≤ factor ∧ 1 ≤ segments ∧
        (segments = 1 ∨ 2 ≤ factor ∧ ⌈((segments : ℚ) - 1) / (factor - 1)⌉₊ ≤ 2 ^ 20) := by
  unfold Mergeable
  refine and_congr_right fun _ => and_congr_right fun hsegments => or_congr_right ?_
  refine and_congr_right fun hfactor => ?_
  rw [passCount_eq_ceil hfactor hsegments, maxPasses]

/-- A schedule succeeds exactly with the inputs that can be merged in few enough
passes, and its trace is a legal reduction of all segments to one. -/
theorem schedule_legal (policy : Policy) (factor segments : Nat) (log : Log) :
    let outcome := (Attempt.after (schedule policy factor segments) log).1
    ((∃ trace, outcome = .ok trace) ↔
      1 ≤ factor ∧ 1 ≤ segments ∧
        (segments = 1 ∨ 2 ≤ factor ∧ ⌈((segments : ℚ) - 1) / (factor - 1)⌉₊ ≤ 2 ^ 20)) ∧
    ∀ trace, outcome = .ok trace →
      trace.policy = policy ∧ trace.factor = factor ∧ trace.initialSegments = segments ∧
        trace.IsLegal := by
  intro outcome
  constructor
  · rw [← mergeable_iff]
    constructor
    · rintro ⟨trace, htrace⟩
      exact (schedule_eq_ok_iff.1 htrace).1
    · intro hmergeable
      exact ⟨_, schedule_eq_ok_iff.2 ⟨hmergeable, rfl⟩⟩
  · intro trace htrace
    obtain ⟨hmergeable, rfl⟩ := schedule_eq_ok_iff.1 htrace
    exact ⟨rfl, rfl, rfl, (reduction_passList policy hmergeable).isLegal⟩

/-- Four segments are merged with a factor of three. -/
theorem schedule_legal_three_four :
    ∃ trace, (Attempt.after (schedule .remainderFirst 3 4) #[]).1 = .ok trace ∧
      trace.initialSegments = 4 ∧ trace.IsLegal := by
  have hpasses : ⌈(((4 : ℕ) : ℚ) - 1) / ((3 : ℕ) - 1)⌉₊ ≤ 2 ^ 20 := by
    rw [Nat.ceil_le]
    norm_num
  obtain ⟨haccepted, hlegal⟩ := schedule_legal .remainderFirst 3 4 #[]
  obtain ⟨trace, htrace⟩ :=
    haccepted.2 ⟨by decide, by decide, Or.inr ⟨by decide, hpasses⟩⟩
  obtain ⟨-, -, hsegments, htraceLegal⟩ := hlegal trace htrace
  exact ⟨trace, htrace, hsegments, htraceLegal⟩

end ExternalSort.Merge
