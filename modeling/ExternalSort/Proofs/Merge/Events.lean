import ExternalSort.Proofs.Merge.Legal

/-!
# What a merge tells of itself

A run tells of each pass, and before that of the size of the pass if this is not the usual
one. So what a run tells can be read off its passes (`passEvents`, `after_runPasses_snd`). Only
a first pass can have a size of its own, and it has one just if the policy wants the
remainder first and the segments are more than the factor (`sizeEvents_first`).

`schedule_tells` says this of schedules: what they tell is the trace, and a schedule that is
refused tells nothing.
-/

namespace ExternalSort.Merge

variable {policy : Policy} {factor : Factor} {number segments : Nat}

/-! ## 1. Passes -/

/-- The events that go with the choice of a size. -/
def sizeEvents (policy : Policy) (factor number segments : Nat) : List Event :=
  match policy with
  | .remainderFirst =>
    (firstPassSize? factor number segments).toList.map (.firstPassSized factor segments)
  | .remainderLast => []

/-- The events that go with a pass. -/
def passEvents (policy : Policy) (factor : Nat) (pass : Pass) : List Event :=
  sizeEvents policy factor pass.number pass.segmentsBefore ++ [.passMerged pass]

theorem after_note (policy : Policy) (factor number segments : Nat) (log : Log) :
    (Logged.after (policy.note factor number segments) log).2.toList
      = log.toList ++ sizeEvents policy factor number segments := by
  cases policy with
  | remainderFirst =>
    unfold Policy.note noteFirstPass sizeEvents
    cases firstPassSize? factor number segments with
    | none => exact (List.append_nil _).symm
    | some fanIn => exact Array.toList_push
  | remainderLast => exact (List.append_nil _).symm

/-- A run tells of its passes one after the other. -/
theorem after_runPasses_snd (policy : Policy) (factor : Factor) (passes : Array Pass)
    (segments : Nat) (log : Log) :
    (Logged.after (runPasses policy factor passes segments) log).2.toList
      = log.toList ++ (passesFrom policy factor (passes.size + 1) segments).flatMap
          (passEvents policy factor.value) := by
  -- Passes and log grow while the segments shrink, so all of them vary in the induction.
  induction segments using Nat.strongRecOn generalizing passes log with
  | ind segments ih =>
    rw [runPasses]
    by_cases h : 1 < segments
    · let pass := nextPass policy factor (passes.size + 1) segments
      let noted := (Logged.after (policy.note factor.value (passes.size + 1) segments) log).2
      have hnoted : noted.toList
          = log.toList ++ sizeEvents policy factor.value (passes.size + 1) segments :=
        after_note policy factor.value (passes.size + 1) segments log
      have hrest := ih pass.segmentsAfter (segmentsAfter_nextPass_lt h) (passes.push pass)
        (noted.push (.passMerged pass))
      rw [Array.size_push, Array.toList_push, hnoted] at hrest
      rw [dif_pos h, passesFrom_of_lt h, List.flatMap_cons, passEvents, ← List.append_assoc,
        ← List.append_assoc]
      exact hrest
    · rw [dif_neg h, passesFrom_of_le (Nat.not_lt.1 h)]
      exact (List.append_nil _).symm

/-! ## 2. Sizes -/

/-- Behind the first pass no size is chosen. -/
theorem sizeEvents_of_one_lt {factor : Nat} (h : 1 < number) :
    sizeEvents policy factor number segments = [] := by
  cases policy with
  | remainderFirst =>
    have hnone : firstPassSize? factor number segments = none := if_pos (.inl h)
    rw [sizeEvents, hnone]
    rfl
  | remainderLast => rfl

theorem sizeEvents_of_le {factor : Nat} (h : segments ≤ factor) :
    sizeEvents policy factor number segments = [] := by
  cases policy with
  | remainderFirst =>
    have hnone : firstPassSize? factor number segments = none := if_pos (.inr (.inl h))
    rw [sizeEvents, hnone]
    rfl
  | remainderLast => rfl

/-- The size that is chosen for a first pass is the number of segments that it merges. -/
theorem sizeEvents_first (factor : Factor) (h : factor.value < segments) :
    sizeEvents .remainderFirst factor.value 1 segments
      = [.firstPassSized factor.value segments
          (nextPass .remainderFirst factor 1 segments).fanIn] := by
  have hle : requestedFanIn factor.value 1 segments ≤ segments :=
    (requestedFanIn_le factor.two_le 1 segments).trans h.le
  have hfanIn : (nextPass .remainderFirst factor 1 segments).fanIn
      = requestedFanIn factor.value 1 segments := min_eq_left hle
  have htwo := factor.two_le
  rw [hfanIn, sizeEvents, requestedFanIn, firstPassSize?, if_neg (by omega)]
  rfl

theorem flatMap_passEvents_of_one_lt (h : 1 < number) (hsegments : 1 ≤ segments) :
    (passesFrom policy factor number segments).flatMap (passEvents policy factor.value)
      = (passesFrom policy factor number segments).map .passMerged := by
  have hnumbers := (reduction_passesFrom policy factor number hsegments).map_number
  rw [List.map_eq_flatMap]
  apply List.flatMap_congr
  intro pass hpass
  have hnumber := List.mem_map_of_mem (f := Pass.number) hpass
  rw [hnumbers] at hnumber
  rw [passEvents, sizeEvents_of_one_lt (h.trans_le (List.mem_range'_1.1 hnumber).1)]
  rfl

theorem flatMap_passEvents (policy : Policy) (factor : Factor) (h : 1 < segments) :
    (passesFrom policy factor 1 segments).flatMap (passEvents policy factor.value)
      = sizeEvents policy factor.value 1 segments
        ++ (passesFrom policy factor 1 segments).map .passMerged := by
  rw [passesFrom_of_lt h, List.flatMap_cons, List.map_cons,
    flatMap_passEvents_of_one_lt (by decide) (one_le_segmentsAfter_nextPass h), passEvents,
    List.append_assoc]
  rfl

/-! ## 3. Schedules -/

/-- Inputs that are refused tell nothing. All others tell of the size of the first pass, if
there is something to tell, and of the passes. -/
theorem after_schedule_snd (policy : Policy) (factor segments : Nat) (log : Log) :
    (Attempt.after (schedule policy factor segments) log).2.toList
      = log.toList ++ match checkInputs factor segments with
        | .error _ => []
        | .ok _ => sizeEvents policy factor 1 segments
            ++ (passList policy factor segments).map .passMerged := by
  unfold schedule
  rw [Attempt.after_bind, Attempt.after_liftExcept]
  cases hchecked : checkInputs factor segments with
  | error cause => exact (List.append_nil _).symm
  | ok usable =>
    obtain ⟨hfactor, rfl, rfl⟩ | ⟨hfactor, hmany, -, rfl⟩ := checkInputs_eq_ok_iff.1 hchecked
    · rw [sizeEvents_of_le hfactor, passList_one]
      exact (List.append_nil _).symm
    · have hrun := after_runPasses_snd policy ⟨factor, hfactor⟩ #[] segments log
      rw [List.size_toArray, List.length_nil, flatMap_passEvents policy _ hmany] at hrun
      rw [passList_of_two_le hfactor]
      exact hrun

/-- What a listener hears of a pass. -/
def Pass.telling (pass : Pass) : Telling where
  level := .debug
  message := "merge pass"
  fields :=
    [("pass", .count pass.number), ("segments_before", .count pass.segmentsBefore),
      ("effective_factor", .count pass.fanIn), ("segments_after", .count pass.segmentsAfter)]

/-- What a listener hears of the size that is chosen for a first pass. -/
def firstPassTelling (factor segments fanIn : Nat) : Telling where
  level := .trace
  message := "first pass factor"
  fields :=
    [("factor", .count factor), ("segments_remaining", .count segments),
      ("pass_factor", .count fanIn)]

/-- A schedule that is refused tells nothing. Any other tells of the passes of its trace in
their order, and of nothing else, but for the size of the first pass: this is told in front
of them just if the remainder comes first and the segments do not fit into one pass. -/
theorem schedule_tells (policy : Policy) (factor segments : Nat) (log : Log) :
    let run := Attempt.after (schedule policy factor segments) log
    (∀ cause, run.1 = .error cause → run.2 = log) ∧
    ∀ trace, run.1 = .ok trace → ∃ (events : List Event) (sizing : List Telling),
      run.2.toList = log.toList ++ events ∧
      events.map Event.telling = sizing ++ trace.passes.map Pass.telling ∧
      (policy = .remainderFirst ∧ factor < segments →
        ∃ first ∈ trace.passes.head?,
          sizing = [firstPassTelling factor segments first.fanIn]) ∧
      (¬(policy = .remainderFirst ∧ factor < segments) → sizing = []) := by
  intro run
  have hlog : run.2.toList = _ := after_schedule_snd policy factor segments log
  constructor
  · intro cause hcause
    have hchecked := checkInputs_eq_error_iff.2 (schedule_eq_error_iff.1 hcause)
    rw [hchecked, List.append_nil] at hlog
    exact Array.toList_inj.1 hlog
  · intro trace htrace
    obtain ⟨hmergeable, rfl⟩ := schedule_eq_ok_iff.1 htrace
    obtain ⟨usable, hchecked⟩ := checkInputs_isOk_iff.2 hmergeable
    rw [hchecked] at hlog
    refine ⟨_, (sizeEvents policy factor 1 segments).map Event.telling, hlog, ?_, ?_, ?_⟩
    · rw [List.map_append, List.map_map]
      rfl
    · rintro ⟨rfl, hlt⟩
      obtain ⟨hone, -, hpasses⟩ := hmergeable
      obtain ⟨htwo, -⟩ := hpasses.resolve_left (hone.trans_lt hlt).ne'
      refine ⟨nextPass .remainderFirst ⟨factor, htwo⟩ 1 segments, ?_, ?_⟩
      · rw [passList_of_two_le htwo, passesFrom_of_lt (hone.trans_lt hlt)]
        rfl
      · rw [sizeEvents_first ⟨factor, htwo⟩ hlt]
        rfl
    · intro husual
      cases policy with
      | remainderFirst =>
        rw [sizeEvents_of_le (Nat.not_lt.1 fun hlt => husual ⟨rfl, hlt⟩)]
        rfl
      | remainderLast => rfl

/-- The first of the passes that merge 23 segments by five merges three of them, and this is
told. Five segments make one pass, of which no size is told, and without segments nothing is
told at all. -/
theorem schedule_tells_five :
    (∃ trace events, Attempt.after (schedule .remainderFirst 5 23) #[] = (.ok trace, events) ∧
      events.toList.map Event.telling
        = firstPassTelling 5 23 3 :: trace.passes.map Pass.telling) ∧
    (∃ trace events, Attempt.after (schedule .remainderFirst 5 5) #[] = (.ok trace, events) ∧
      events.toList.map Event.telling = trace.passes.map Pass.telling) ∧
    (Attempt.after (schedule .remainderFirst 5 0) #[]).2 = #[] := by
  have hmany : Mergeable 5 23 := by decide
  have hone : Mergeable 5 5 := by decide
  have hnone : MergeFault 5 0 .zeroSegments := .zeroSegments (by decide) rfl
  have hpasses : passList .remainderFirst 5 23 = ⟨1, 23, 3, 21⟩ ::
      passesFrom .remainderFirst ⟨5, by decide⟩ 2 21 := by
    rw [passList_of_two_le (by decide), passesFrom_of_lt (by decide)]
    rfl
  obtain ⟨-, htold⟩ := schedule_tells .remainderFirst 5 23 #[]
  obtain ⟨-, htoldOne⟩ := schedule_tells .remainderFirst 5 5 #[]
  obtain ⟨hrefused, -⟩ := schedule_tells .remainderFirst 5 0 #[]
  have hschedule := hmany.schedule_eq .remainderFirst #[]
  have hscheduleOne := hone.schedule_eq .remainderFirst #[]
  obtain ⟨events, sizing, hlog, htellings, hsized, -⟩ := htold _ hschedule
  obtain ⟨first, hfirst, rfl⟩ := hsized ⟨rfl, by decide⟩
  obtain ⟨eventsOne, sizingOne, hlogOne, htellingsOne, -, husual⟩ := htoldOne _ hscheduleOne
  obtain rfl := husual (by decide)
  rw [hpasses] at hfirst
  cases hfirst
  refine ⟨⟨_, _, Prod.ext hschedule rfl, ?_⟩, ⟨_, _, Prod.ext hscheduleOne rfl, ?_⟩, ?_⟩
  · rw [hlog]
    exact htellings
  · rw [hlogOne]
    exact htellingsOne
  · exact hrefused _ (schedule_eq_error_iff.2 hnone)

end ExternalSort.Merge
