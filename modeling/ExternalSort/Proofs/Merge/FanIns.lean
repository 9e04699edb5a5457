import ExternalSort.Proofs.Merge.Legal

/-!
# The sizes of all passes

A full pass removes `factor - 1` segments. So the sizes of the passes come from one
division, that of the segments to remove by the segments that a full pass removes:
its quotient counts the full passes, and its remainder makes a short pass. The
policies differ in where the short pass stands and in nothing else.

Results:
1. `fanIns_remainderLast`, `fanIns_remainderFirst`: the sizes of all passes.
2. `Mergeable.length_passList`: there are as many passes as `passCount` says.
   `sum_fanIn_passList`: how many segments they read together.
3. `length_passList_mono`, `sum_fanIn_passList_mono`: with a larger factor, fewer
   segments take no more passes, which read no more segments.
4. `schedule_mirror`: the sizes under one policy are those under the other,
   backwards.
-/

namespace ExternalSort.Merge

/-! ## 1. Full passes and the short pass -/

/-- How many passes are full. -/
def fullPasses (factor segments : Nat) : Nat := (segments - 1) / (factor - 1)

/-- The size of the short pass, if the full ones leave more than one segment. -/
def shortPass (factor segments : Nat) : List Nat :=
  let surplus := (segments - 1) % (factor - 1)
  if surplus = 0 then [] else [surplus + 1]

variable {policy : Policy} {factor : Factor} {number segments : Nat}

theorem fullPasses_one (factor : Nat) : fullPasses factor 1 = 0 := Nat.zero_div _

theorem shortPass_one (factor : Nat) : shortPass factor 1 = [] := by
  simp [shortPass]

theorem fullPasses_of_lt {factor : Nat} (h : 1 ≤ segments) (hlt : segments < factor) :
    fullPasses factor segments = 0 := Nat.div_eq_of_lt (by omega)

theorem shortPass_of_lt {factor : Nat} (h : 1 < segments) (hlt : segments < factor) :
    shortPass factor segments = [segments] := by
  have hsurplus : (segments - 1) % (factor - 1) = segments - 1 := Nat.mod_eq_of_lt (by omega)
  have hsegments : segments - 1 + 1 = segments := by omega
  unfold shortPass
  rw [hsurplus, if_neg (by omega), hsegments]

theorem sub_one_of_le (h : factor.value ≤ segments) :
    segments - 1 = segments - (factor.value - 1) - 1 + (factor.value - 1) := by
  have htwo := factor.two_le
  omega

/-- A full pass counts one, and it leaves the short pass to the others. -/
theorem fullPasses_of_le (h : factor.value ≤ segments) :
    fullPasses factor.value segments
      = fullPasses factor.value (segments - (factor.value - 1)) + 1 := by
  rw [fullPasses, sub_one_of_le h, Nat.add_div_right _ (Nat.sub_pos_of_lt factor.two_le)]
  rfl

theorem shortPass_of_le (h : factor.value ≤ segments) :
    shortPass factor.value segments = shortPass factor.value (segments - (factor.value - 1)) := by
  rw [shortPass, sub_one_of_le h, Nat.add_mod_right]
  rfl

/-! ## 2. The passes of each policy -/

/-- The sizes of the passes to come. -/
def fanInsFrom (policy : Policy) (factor : Factor) (number segments : Nat) : List Nat :=
  (passesFrom policy factor number segments).map Pass.fanIn

theorem fanInsFrom_one : fanInsFrom policy factor number 1 = [] := by
  rw [fanInsFrom, passesFrom_of_le (Nat.le_refl 1), List.map_nil]

theorem fanInsFrom_of_lt (h : 1 < segments) {fanIn : Nat}
    (hfanIn : policy.fanIn factor.value number segments = fanIn) :
    fanInsFrom policy factor number segments
      = fanIn :: fanInsFrom policy factor (number + 1) (segments - (fanIn - 1)) := by
  subst hfanIn
  rw [fanInsFrom, passesFrom_of_lt h, List.map_cons]
  rfl

/-- A pass that merges all segments is the last one. -/
theorem fanInsFrom_of_fanIn_eq (h : 1 < segments)
    (hall : policy.fanIn factor.value number segments = segments) :
    fanInsFrom policy factor number segments = [segments] := by
  have hone : segments - (segments - 1) = 1 := by omega
  rw [fanInsFrom_of_lt h hall, hone, fanInsFrom_one]

/-- Full passes come first, and the short pass comes last. -/
theorem fanIns_remainderLast (h : 1 ≤ segments) :
    fanInsFrom .remainderLast factor number segments
      = List.replicate (fullPasses factor.value segments) factor.value
        ++ shortPass factor.value segments := by
  have htwo := factor.two_le
  induction segments using Nat.strongRecOn generalizing number with
  | ind segments ih =>
    rcases Nat.eq_or_lt_of_le h with rfl | hmany
    · rw [fanInsFrom_one, fullPasses_one, shortPass_one]
      rfl
    rcases Nat.lt_or_ge segments factor.value with hfew | hle
    · have hall : Policy.remainderLast.fanIn factor.value number segments = segments :=
        Nat.min_eq_left (Nat.le_of_lt hfew)
      rw [fanInsFrom_of_fanIn_eq hmany hall, fullPasses_of_lt h hfew, shortPass_of_lt hmany hfew]
      rfl
    · have hfull : Policy.remainderLast.fanIn factor.value number segments = factor.value :=
        Nat.min_eq_right hle
      rw [fanInsFrom_of_lt hmany hfull, ih _ (by omega) (by omega), ← shortPass_of_le hle,
        fullPasses_of_le hle, List.replicate_succ, List.cons_append]

theorem requestedFanIn_of_le {factor : Nat} (h : segments ≤ factor) :
    requestedFanIn factor number segments = factor := by
  unfold requestedFanIn firstPassSize?
  rw [if_pos (.inr (.inl h)), Option.getD_none]

theorem requestedFanIn_of_mod_eq_zero {factor : Nat}
    (h : (segments - 1) % (factor - 1) = 0) : requestedFanIn factor number segments = factor := by
  unfold requestedFanIn firstPassSize?
  split
  · rfl
  · simp only [h, if_true, Option.getD_some]

theorem fanIns_remainderFirst_of_mod_eq_zero {count : Nat}
    (h : segments = count * (factor.value - 1) + 1) :
    fanInsFrom .remainderFirst factor number segments = List.replicate count factor.value := by
  have htwo := factor.two_le
  induction count generalizing number segments with
  | zero =>
    subst h
    rw [Nat.zero_mul, Nat.zero_add, fanInsFrom_one]
    rfl
  | succ count ih =>
    have hsurplus : (segments - 1) % (factor.value - 1) = 0 := by
      rw [h, Nat.add_sub_cancel, Nat.mul_mod_left]
    rw [Nat.succ_mul] at h
    have hfull : Policy.remainderFirst.fanIn factor.value number segments = factor.value := by
      rw [Policy.fanIn, requestedFanIn_of_mod_eq_zero hsurplus, Nat.min_eq_left (by omega)]
    rw [fanInsFrom_of_lt (by omega) hfull, ih (by omega), List.replicate_succ]

/-- A first pass takes what full passes would leave over. -/
theorem fanIn_remainderFirst_of_mod_ne_zero {factor : Nat} (hlt : factor < segments)
    (hfactor : 2 ≤ factor) (h : (segments - 1) % (factor - 1) ≠ 0) :
    Policy.remainderFirst.fanIn factor 1 segments = (segments - 1) % (factor - 1) + 1 := by
  have hsurplus : (segments - 1) % (factor - 1) < factor - 1 := Nat.mod_lt _ (by omega)
  have hrequested : requestedFanIn factor 1 segments = (segments - 1) % (factor - 1) + 1 := by
    unfold requestedFanIn firstPassSize?
    rw [if_neg (by omega)]
    simp only [h, if_false, Option.getD_some]
  rw [Policy.fanIn, hrequested, Nat.min_eq_left (by omega)]

/-- The short pass comes first, and full passes come after it. -/
theorem fanIns_remainderFirst (h : 1 ≤ segments) :
    fanInsFrom .remainderFirst factor 1 segments
      = shortPass factor.value segments
        ++ List.replicate (fullPasses factor.value segments) factor.value := by
  have htwo := factor.two_le
  have hdivision := Nat.div_add_mod' (segments - 1) (factor.value - 1)
  by_cases hsurplus : (segments - 1) % (factor.value - 1) = 0
  · have hsegments : segments = fullPasses factor.value segments * (factor.value - 1) + 1 := by
      unfold fullPasses
      omega
    rw [fanIns_remainderFirst_of_mod_eq_zero hsegments, shortPass, if_pos hsurplus]
    rfl
  have hmany : 1 < segments := by
    by_contra hone
    obtain rfl : segments = 1 := by omega
    exact hsurplus (Nat.zero_mod _)
  rcases Nat.lt_or_ge segments factor.value with hfew | hle
  · have hall : Policy.remainderFirst.fanIn factor.value 1 segments = segments := by
      rw [Policy.fanIn, requestedFanIn_of_le (Nat.le_of_lt hfew),
        Nat.min_eq_right (Nat.le_of_lt hfew)]
    rw [fanInsFrom_of_fanIn_eq hmany hall, fullPasses_of_lt h hfew, shortPass_of_lt hmany hfew]
    rfl
  · have hlt : factor.value < segments := by
      rcases Nat.eq_or_lt_of_le hle with heq | hlt
      · rw [← heq, Nat.mod_self] at hsurplus
        exact absurd rfl hsurplus
      · exact hlt
    have hrest : segments - ((segments - 1) % (factor.value - 1) + 1 - 1)
        = fullPasses factor.value segments * (factor.value - 1) + 1 := by
      unfold fullPasses
      omega
    rw [fanInsFrom_of_lt hmany (fanIn_remainderFirst_of_mod_ne_zero hlt htwo hsurplus),
      fanIns_remainderFirst_of_mod_eq_zero hrest, shortPass, if_neg hsurplus]
    rfl

/-! ## 3. How many passes there are, and how much they read -/

theorem passCount_eq {factor : Nat} (h : 2 ≤ factor) (segments : Nat) :
    passCount factor segments
      = fullPasses factor segments + (shortPass factor segments).length := by
  rw [passCount, ceilDiv_eq_div_add (by omega), fullPasses, shortPass]
  split <;> rfl

theorem length_passesFrom (policy : Policy) (factor : Factor) (h : 1 ≤ segments) :
    (passesFrom policy factor 1 segments).length = passCount factor.value segments := by
  have hlength : (passesFrom policy factor 1 segments).length
      = (fanInsFrom policy factor 1 segments).length := (List.length_map _).symm
  rw [hlength, passCount_eq factor.two_le]
  cases policy with
  | remainderFirst =>
    rw [fanIns_remainderFirst h, List.length_append, List.length_replicate, Nat.add_comm]
  | remainderLast =>
    rw [fanIns_remainderLast h, List.length_append, List.length_replicate]

theorem passCount_of_le (factor : Nat) (h : segments ≤ 1) : passCount factor segments = 0 := by
  rw [passCount, Nat.sub_eq_zero_of_le h]
  rcases Nat.eq_zero_or_pos (factor - 1) with hzero | hpos
  · rw [hzero]
    exact Nat.div_zero _
  · exact Nat.le_zero.1 ((ceilDiv_le_iff hpos).2 (Nat.zero_le _))

theorem Mergeable.length_passList {factor : Nat} (h : Mergeable factor segments)
    (policy : Policy) : (passList policy factor segments).length = passCount factor segments := by
  obtain ⟨-, hsegments, rfl | ⟨hfactor, -⟩⟩ := h
  · rw [passList_one, passCount_of_le factor (Nat.le_refl 1), List.length_nil]
  · rw [passList_of_two_le hfactor, length_passesFrom policy ⟨factor, hfactor⟩ hsegments]

theorem passCount_mono {factor factor' segments' : Nat} (hfactor : 2 ≤ factor)
    (hfactors : factor ≤ factor') (hsegments : segments' ≤ segments) :
    passCount factor' segments' ≤ passCount factor segments := by
  have henough : segments - 1 ≤ passCount factor segments * (factor - 1) :=
    (ceilDiv_le_iff (by omega)).1 (Nat.le_refl _)
  apply (ceilDiv_le_iff (by omega)).2
  calc segments' - 1 ≤ segments - 1 := Nat.sub_le_sub_right hsegments 1
    _ ≤ passCount factor segments * (factor - 1) := henough
    _ ≤ passCount factor segments * (factor' - 1) :=
      Nat.mul_le_mul_left _ (Nat.sub_le_sub_right hfactors 1)

/-- Each segment is read once, those that the passes make included, but for the
last one. -/
theorem Reduction.sum_fanIn {factor : Nat} {passes : List Pass}
    (h : Reduction factor number segments passes) :
    (passes.map Pass.fanIn).sum + 1 = segments + passes.length := by
  induction h with
  | done => rfl
  | merge htwo _ hsegments _ ih =>
    simp only [Pass.merging, List.map_cons, List.sum_cons, List.length_cons] at ih ⊢
    omega

theorem sum_fanIn_passList (policy : Policy) {factor : Nat} (h : Mergeable factor segments) :
    ((passList policy factor segments).map Pass.fanIn).sum
      = segments - 1 + (passList policy factor segments).length := by
  have hsum := (reduction_passList policy h).sum_fanIn
  have hsegments := h.2.1
  omega

theorem Mergeable.mono {factor factor' segments' : Nat} (h : Mergeable factor segments)
    (hfactors : factor ≤ factor') (hpos : 1 ≤ segments') (hsegments : segments' ≤ segments) :
    Mergeable factor' segments' := by
  obtain ⟨hfactor, -, hmany⟩ := h
  refine ⟨Nat.le_trans hfactor hfactors, hpos, ?_⟩
  by_cases hone : segments' = 1
  · exact .inl hone
  · obtain ⟨htwo, hpasses⟩ := hmany.resolve_left (by omega)
    exact .inr ⟨Nat.le_trans htwo hfactors,
      Nat.le_trans (passCount_mono htwo hfactors hsegments) hpasses⟩

/-- Under any two policies, fewer segments are merged in no more passes. -/
theorem length_passList_mono {factor factor' segments' : Nat} (h : Mergeable factor segments)
    (hfactors : factor ≤ factor') (hpos : 1 ≤ segments') (hsegments : segments' ≤ segments)
    (policy policy' : Policy) :
    (passList policy' factor' segments').length ≤ (passList policy factor segments).length := by
  rw [h.length_passList, (h.mono hfactors hpos hsegments).length_passList]
  obtain ⟨-, -, hmany⟩ := h
  by_cases hone : segments' = 1
  · rw [passCount_of_le factor' hone.le]
    exact Nat.zero_le _
  · obtain ⟨htwo, -⟩ := hmany.resolve_left (by omega)
    exact passCount_mono htwo hfactors hsegments

/-- Fewer segments and a larger factor need no more reads. -/
theorem sum_fanIn_passList_mono {factor factor' segments' : Nat} (h : Mergeable factor segments)
    (hfactors : factor ≤ factor') (hpos : 1 ≤ segments') (hsegments : segments' ≤ segments)
    (policy policy' : Policy) :
    ((passList policy' factor' segments').map Pass.fanIn).sum
      ≤ ((passList policy factor segments).map Pass.fanIn).sum := by
  rw [sum_fanIn_passList policy h, sum_fanIn_passList policy' (h.mono hfactors hpos hsegments)]
  exact Nat.add_le_add (Nat.sub_le_sub_right hsegments 1)
    (length_passList_mono h hfactors hpos hsegments policy policy')

/-! ## 4. Mirror images -/

/-- The short pass is a list of one size at most, so it is the same backwards. -/
theorem reverse_shortPass (factor segments : Nat) :
    (shortPass factor segments).reverse = shortPass factor segments := by
  unfold shortPass
  simp only
  split <;> rfl

theorem map_fanIn_passList (factor segments : Nat) :
    (passList .remainderFirst factor segments).map Pass.fanIn
      = ((passList .remainderLast factor segments).map Pass.fanIn).reverse := by
  rcases Nat.lt_or_ge factor 2 with hone | htwo
  · simp only [passList, dif_neg (Nat.not_le.2 hone), List.map_nil, List.reverse_nil]
  rcases Nat.eq_zero_or_pos segments with rfl | hsegments
  · simp only [passList_of_two_le htwo, passesFrom_of_le (Nat.zero_le 1), List.map_nil,
      List.reverse_nil]
  have hfirst := @fanIns_remainderFirst ⟨factor, htwo⟩ segments hsegments
  have hlast := @fanIns_remainderLast ⟨factor, htwo⟩ 1 segments hsegments
  rw [fanInsFrom] at hfirst hlast
  rw [passList_of_two_le htwo, passList_of_two_le htwo, hfirst, hlast, List.reverse_append,
    List.reverse_replicate, reverse_shortPass]

/-- The policies refuse the same inputs for the same reason. Where they succeed,
the sizes of the passes under one policy are those under the other, backwards. -/
theorem schedule_mirror (factor segments : Nat) (log log' : Log) :
    let first := (Attempt.after (schedule .remainderFirst factor segments) log).1
    let last := (Attempt.after (schedule .remainderLast factor segments) log').1
    (∃ cause, first = .error cause ∧ last = .error cause) ∨
      ∃ trace trace', first = .ok trace ∧ last = .ok trace' ∧
        trace.fanIns = trace'.fanIns.reverse := by
  intro first last
  have hfirst : first = _ := after_schedule .remainderFirst factor segments log
  have hlast : last = _ := after_schedule .remainderLast factor segments log'
  rw [hfirst, hlast]
  cases checkInputs factor segments with
  | error cause => exact .inl ⟨cause, rfl, rfl⟩
  | ok usable => exact .inr ⟨_, _, rfl, rfl, map_fanIn_passList factor segments⟩

end ExternalSort.Merge
