import ExternalSort.Merge.Schedule

/-!
# The passes of a merge

`runPasses` adds passes to those that went before and tells of each of them.
Here the passes stand alone, as the list `passesFrom` of the passes that are
still to come. Statements about merges are proved of that list.

Results:
1. `after_runPasses`: what a run adds is that list.
2. `schedule_eq_ok_iff`: a schedule succeeds with the inputs that can be merged,
   and its trace lists the passes that start with pass number one.
-/

namespace ExternalSort.Merge

variable {policy : Policy} {factor : Factor} {number segments : Nat}

/-! ## 1. The passes to come -/

/-- The pass that follows when `segments` segments are left. -/
def nextPass (policy : Policy) (factor : Factor) (number segments : Nat) : Pass :=
  Pass.merging number segments (policy.fanIn factor.value number segments)

theorem segmentsAfter_nextPass_lt (h : 1 < segments) :
    (nextPass policy factor number segments).segmentsAfter < segments := by
  have htwo := policy.two_le_fanIn factor.two_le h number
  simp only [nextPass, Pass.merging]
  omega

/-- The passes that merge `segments` segments into one, the first of them under
this number. -/
def passesFrom (policy : Policy) (factor : Factor) (number segments : Nat) : List Pass :=
  if h : 1 < segments then
    nextPass policy factor number segments ::
      passesFrom policy factor (number + 1) (nextPass policy factor number segments).segmentsAfter
  else []
termination_by segments
decreasing_by exact segmentsAfter_nextPass_lt h

theorem passesFrom_of_lt (h : 1 < segments) :
    passesFrom policy factor number segments
      = nextPass policy factor number segments ::
          passesFrom policy factor (number + 1)
            (nextPass policy factor number segments).segmentsAfter := by
  rw [passesFrom, dif_pos h]

theorem passesFrom_of_le (h : segments ≤ 1) : passesFrom policy factor number segments = [] := by
  rw [passesFrom, dif_neg (Nat.not_lt.2 h)]

/-- A run adds the passes to come, whatever was told before. -/
theorem after_runPasses (policy : Policy) (factor : Factor) (passes : Array Pass)
    (segments : Nat) (log : Log) :
    (Logged.after (runPasses policy factor passes segments) log).1.toList
      = passes.toList ++ passesFrom policy factor (passes.size + 1) segments := by
  -- The list of passes grows while the segments shrink, so both vary in the induction.
  induction segments using Nat.strongRecOn generalizing passes log with
  | ind segments ih =>
    rw [runPasses]
    by_cases h : 1 < segments
    · let pass := nextPass policy factor (passes.size + 1) segments
      have hrest := ih pass.segmentsAfter (segmentsAfter_nextPass_lt h) (passes.push pass)
      rw [Array.size_push, Array.toList_push, List.append_assoc] at hrest
      rw [dif_pos h, passesFrom_of_lt h]
      exact hrest _
    · rw [dif_neg h, passesFrom_of_le (Nat.not_lt.1 h), List.append_nil]
      rfl

/-! ## 2. Schedules -/

/-- Inputs are accepted in two cases: there is nothing to merge, or the passes
make progress and are not too many. -/
theorem checkInputs_eq_ok_iff {factor segments : Nat} {usable : Option Factor} :
    checkInputs factor segments = .ok usable ↔
      (1 ≤ factor ∧ segments = 1 ∧ usable = none) ∨
      ∃ h : 2 ≤ factor, 1 < segments ∧ passCount factor segments ≤ maxPasses ∧
        usable = some ⟨factor, h⟩ := by
  unfold checkInputs
  constructor
  · intro h
    split at h
    · cases h
    · split at h
      · cases h
      · split at h
        · cases h
          exact Or.inl ⟨by omega, by assumption, rfl⟩
        · split at h
          · cases h
          · simp only at h
            split at h
            · cases h
            · cases h
              exact Or.inr ⟨by omega, by omega, by omega, rfl⟩
  · rintro (⟨hfactor, rfl, rfl⟩ | ⟨hfactor, hsegments, hpasses, rfl⟩)
    · rw [dif_neg (by omega)]
      rfl
    · rw [dif_neg (by omega), if_neg (by omega), if_neg (by omega), dif_neg (by omega)]
      exact if_neg (by omega)

/-- Why inputs are refused. Each reason is looked for only where those before it do not
hold. -/
inductive MergeFault (factor segments : Nat) : MergeError → Prop
  | zeroFactor : factor = 0 → MergeFault factor segments .zeroFactor
  | zeroSegments : 1 ≤ factor → segments = 0 → MergeFault factor segments .zeroSegments
  | cannotReduce : factor = 1 → 2 ≤ segments →
      MergeFault factor segments (.cannotReduce segments)
  | tooManyPasses : 2 ≤ factor → 2 ≤ segments → maxPasses < passCount factor segments →
      MergeFault factor segments (.tooManyPasses segments (passCount factor segments))

theorem checkInputs_eq_error_iff {factor segments : Nat} {cause : MergeError} :
    checkInputs factor segments = .error cause ↔ MergeFault factor segments cause := by
  unfold checkInputs
  constructor
  · intro h
    split at h
    · cases h
      exact .zeroFactor (by assumption)
    · split at h
      · cases h
        exact .zeroSegments (by omega) (by assumption)
      · split at h
        · cases h
        · split at h
          · cases h
            exact .cannotReduce (by assumption) (by omega)
          · simp only at h
            split at h
            · cases h
              exact .tooManyPasses (by omega) (by omega) (by assumption)
            · cases h
  · intro h
    cases h with
    | zeroFactor hfactor => exact dif_pos hfactor
    | zeroSegments hfactor hsegments => rw [dif_neg (by omega), if_pos hsegments]
    | cannotReduce hfactor hsegments =>
      rw [dif_neg (by omega), if_neg (by omega), if_neg (by omega), dif_pos hfactor]
    | tooManyPasses hfactor hsegments hpasses =>
      rw [dif_neg (by omega), if_neg (by omega), if_neg (by omega), dif_neg (by omega)]
      exact if_pos hpasses

/-- The passes of a merge from the start. A factor below two has none: it is only
accepted where there is nothing to merge. -/
def passList (policy : Policy) (factor segments : Nat) : List Pass :=
  if h : 2 ≤ factor then passesFrom policy ⟨factor, h⟩ 1 segments else []

theorem passList_of_two_le {factor : Nat} (h : 2 ≤ factor) :
    passList policy factor segments = passesFrom policy ⟨factor, h⟩ 1 segments := dif_pos h

theorem passList_one (factor : Nat) : passList policy factor 1 = [] := by
  unfold passList
  split
  · exact passesFrom_of_le (Nat.le_refl 1)
  · rfl

/-- A schedule lists its passes, whatever was told before, unless its inputs are
refused. -/
theorem after_schedule (policy : Policy) (factor segments : Nat) (log : Log) :
    (Attempt.after (schedule policy factor segments) log).1
      = (checkInputs factor segments).map
          fun _ => ⟨policy, factor, segments, passList policy factor segments⟩ := by
  unfold schedule
  rw [Attempt.after_bind, Attempt.after_liftExcept]
  cases hchecked : checkInputs factor segments with
  | error cause => rfl
  | ok usable =>
    obtain ⟨-, rfl, rfl⟩ | ⟨hfactor, -, -, rfl⟩ := checkInputs_eq_ok_iff.1 hchecked
    · simp only [passList_one]
      rfl
    · have hrun := after_runPasses policy ⟨factor, hfactor⟩ #[] segments log
      rw [passList_of_two_le hfactor]
      simp only [Attempt.after_bind, Attempt.after_liftState, Attempt.after_pure, Except.map,
        Except.ok.injEq, Trace.mk.injEq, true_and]
      exact hrun

/-- The inputs with which a merge ends, and soon enough. -/
def Mergeable (factor segments : Nat) : Prop :=
  1 ≤ factor ∧ 1 ≤ segments ∧ (segments = 1 ∨ 2 ≤ factor ∧ passCount factor segments ≤ maxPasses)

instance (factor segments : Nat) : Decidable (Mergeable factor segments) :=
  inferInstanceAs (Decidable (_ ∧ _ ∧ (_ ∨ _ ∧ _)))

theorem checkInputs_isOk_iff {factor segments : Nat} :
    (∃ usable, checkInputs factor segments = .ok usable) ↔ Mergeable factor segments := by
  constructor
  · rintro ⟨usable, h⟩
    obtain ⟨hfactor, rfl, -⟩ | ⟨hfactor, hmany, hpasses, -⟩ := checkInputs_eq_ok_iff.1 h
    · exact ⟨hfactor, Nat.le_refl 1, Or.inl rfl⟩
    · exact ⟨by omega, by omega, Or.inr ⟨hfactor, hpasses⟩⟩
  · rintro ⟨hfactor, hsegments, hmany⟩
    by_cases hone : segments = 1
    · exact ⟨none, checkInputs_eq_ok_iff.2 (Or.inl ⟨hfactor, hone, rfl⟩)⟩
    · obtain ⟨htwo, hpasses⟩ := hmany.resolve_left hone
      exact ⟨_, checkInputs_eq_ok_iff.2 (Or.inr ⟨htwo, by omega, hpasses, rfl⟩)⟩

/-- A schedule succeeds with the inputs that can be merged, and has one trace for
them. -/
theorem schedule_eq_ok_iff {policy : Policy} {factor segments : Nat} {log : Log} {trace : Trace} :
    (Attempt.after (schedule policy factor segments) log).1 = .ok trace ↔
      Mergeable factor segments ∧
        trace = ⟨policy, factor, segments, passList policy factor segments⟩ := by
  rw [after_schedule, ← checkInputs_isOk_iff]
  cases checkInputs factor segments with
  | error cause => simp [Except.map]
  | ok usable => simp [Except.map, eq_comm]

theorem Mergeable.schedule_eq {factor segments : Nat} (h : Mergeable factor segments)
    (policy : Policy) (log : Log) :
    (Attempt.after (schedule policy factor segments) log).1
      = .ok ⟨policy, factor, segments, passList policy factor segments⟩ :=
  schedule_eq_ok_iff.2 ⟨h, rfl⟩

/-- A schedule fails with the inputs that are refused, for the reason that they are
refused for. -/
theorem schedule_eq_error_iff {policy : Policy} {factor segments : Nat} {log : Log}
    {cause : MergeError} :
    (Attempt.after (schedule policy factor segments) log).1 = .error cause ↔
      MergeFault factor segments cause := by
  rw [after_schedule, ← checkInputs_eq_error_iff]
  cases checkInputs factor segments with
  | error cause => simp [Except.map]
  | ok usable => simp [Except.map]

end ExternalSort.Merge
