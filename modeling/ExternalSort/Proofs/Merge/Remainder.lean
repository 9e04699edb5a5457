import ExternalSort.Proofs.Merge.FanIns

/-!
# The remainder law

A full pass removes `factor - 1` segments, and one segment is to be left in the end. So
full passes leave nothing over just if `factor - 1` divides `segments - 1`. Under
`remainderFirst` the first pass brings this about, and every full pass keeps it.

Results:
1. `requestedFanIn_eq_iff`: a first pass has the one size after which full passes leave
   nothing over.
2. `NothingOver.forall_passesFrom`: from there on all passes are full, and each of them
   finds as many segments as it asks for.
3. `requestFanIn_remainder`: so only the first pass of a trace can be smaller, and only
   because it asks for less.
-/

namespace ExternalSort.Merge

variable {number segments fanIn : Nat}

/-! ## 1. The first pass -/

/-- Sizes of a pass differ by less than what a full pass removes, so one of them at most
leaves a multiple of that. -/
theorem eq_of_dvd_sub {factor fanIn' : Nat} (hlt : factor < segments)
    (htwo : 2 ≤ fanIn) (hle : fanIn ≤ factor) (hdvd : factor - 1 ∣ segments - fanIn)
    (htwo' : 2 ≤ fanIn') (hle' : fanIn' ≤ factor) (hdvd' : factor - 1 ∣ segments - fanIn') :
    fanIn = fanIn' := by
  wlog hsmaller : fanIn ≤ fanIn' generalizing fanIn fanIn'
  · exact (this htwo' hle' hdvd' htwo hle hdvd (Nat.le_of_not_le hsmaller)).symm
  have hdifference : factor - 1 ∣ fanIn' - fanIn := by
    have hsub := Nat.dvd_sub hdvd hdvd'
    rwa [tsub_tsub_tsub_cancel_left (hle'.trans hlt.le)] at hsub
  have hzero : fanIn' - fanIn = 0 := Nat.eq_zero_of_dvd_of_lt hdifference (by omega)
  exact Nat.le_antisymm hsmaller (Nat.sub_eq_zero_iff_le.1 hzero)

theorem dvd_sub_requestedFanIn {factor : Nat} (hfactor : 2 ≤ factor) (hlt : factor < segments)
    (hnumber : number ≤ 1) : factor - 1 ∣ segments - requestedFanIn factor number segments := by
  have hmultiple : factor - 1 ∣ segments - 1 - (segments - 1) % (factor - 1) :=
    Nat.dvd_sub_mod (segments - 1)
  unfold requestedFanIn firstPassSize?
  rw [if_neg (by omega)]
  simp only [Option.getD_some]
  split
  · next hsurplus =>
    have hrest : segments - factor = segments - 1 - (factor - 1) := by omega
    rw [hsurplus, Nat.sub_zero] at hmultiple
    rw [hrest]
    exact Nat.dvd_sub hmultiple (Nat.dvd_refl _)
  · rwa [Nat.add_comm, Nat.sub_add_eq]

theorem requestedFanIn_eq_iff {factor : Nat} (hfactor : 2 ≤ factor) (hlt : factor < segments)
    (hnumber : number ≤ 1) :
    requestedFanIn factor number segments = fanIn ↔
      2 ≤ fanIn ∧ fanIn ≤ factor ∧ factor - 1 ∣ segments - fanIn := by
  have htwo := two_le_requestedFanIn hfactor number segments
  have hle := requestedFanIn_le hfactor number segments
  have hdvd := dvd_sub_requestedFanIn hfactor hlt hnumber
  constructor
  · rintro rfl
    exact ⟨htwo, hle, hdvd⟩
  · rintro ⟨htwo', hle', hdvd'⟩
    exact eq_of_dvd_sub hlt htwo hle hdvd htwo' hle' hdvd'

/-! ## 2. Full passes -/

/-- Full passes reduce this many segments to one, and nothing is left over. -/
structure NothingOver (factor segments : Nat) : Prop where
  one_le : 1 ≤ segments
  dvd : factor - 1 ∣ segments - 1

theorem nothingOver_sub {factor : Nat} (hpos : 1 ≤ fanIn) (hle : fanIn ≤ segments)
    (hdvd : factor - 1 ∣ segments - fanIn) : NothingOver factor (segments - (fanIn - 1)) where
  one_le := by omega
  dvd := by
    have hrest : segments - (fanIn - 1) - 1 = segments - fanIn := by omega
    rwa [hrest]

namespace NothingOver

variable {factor : Nat}

theorem requestedFanIn_eq (h : NothingOver factor segments) (number : Nat) :
    requestedFanIn factor number segments = factor :=
  requestedFanIn_of_mod_eq_zero (Nat.mod_eq_zero_of_dvd h.dvd)

/-- Where something is to be merged, there is enough for a full pass. -/
theorem factor_le (h : NothingOver factor segments) (hmany : 1 < segments) :
    factor ≤ segments := by
  have hle := Nat.le_of_dvd (Nat.sub_pos_of_lt hmany) h.dvd
  omega

theorem dvd_sub_factor (h : NothingOver factor segments) (hpos : 1 ≤ factor) :
    factor - 1 ∣ segments - factor := by
  have hrest : segments - factor = segments - 1 - (factor - 1) := by omega
  rw [hrest]
  exact Nat.dvd_sub h.dvd (Nat.dvd_refl _)

end NothingOver

/-- A pass that merges what it asks for, and leaves nothing over. -/
structure Pass.IsExact (factor : Nat) (pass : Pass) : Prop where
  fanIn_eq : pass.fanIn = requestedFanIn factor pass.number pass.segmentsBefore
  nothingOver : NothingOver factor pass.segmentsAfter

variable {factor : Factor}

theorem isExact_nextPass (number : Nat)
    (hle : requestedFanIn factor.value number segments ≤ segments)
    (hdvd : factor.value - 1 ∣ segments - requestedFanIn factor.value number segments) :
    (nextPass .remainderFirst factor number segments).IsExact factor.value := by
  have hfanIn : (nextPass .remainderFirst factor number segments).fanIn
      = requestedFanIn factor.value number segments := Nat.min_eq_left hle
  have htwo := two_le_requestedFanIn factor.two_le number segments
  refine ⟨hfanIn, ?_⟩
  show NothingOver factor.value
    (segments - ((nextPass .remainderFirst factor number segments).fanIn - 1))
  rw [hfanIn]
  exact nothingOver_sub (Nat.one_le_of_lt htwo) hle hdvd

/-- A full pass keeps what the first pass has brought about. -/
theorem NothingOver.isExact_nextPass (h : NothingOver factor.value segments)
    (hmany : 1 < segments) (number : Nat) :
    (nextPass .remainderFirst factor number segments).IsExact factor.value := by
  have hrequested := h.requestedFanIn_eq number
  apply Merge.isExact_nextPass number
  · rw [hrequested]
    exact h.factor_le hmany
  · rw [hrequested]
    exact h.dvd_sub_factor (Nat.one_le_of_lt factor.two_le)

theorem NothingOver.forall_passesFrom (h : NothingOver factor.value segments) :
    ∀ pass ∈ passesFrom .remainderFirst factor number segments,
      pass.fanIn = factor.value ∧ pass.IsExact factor.value := by
  induction segments using Nat.strongRecOn generalizing number with
  | ind segments ih =>
    intro pass hpass
    rcases Nat.eq_or_lt_of_le h.one_le with rfl | hmany
    · rw [passesFrom_of_le (Nat.le_refl 1)] at hpass
      cases hpass
    · have hexact := h.isExact_nextPass hmany number
      rw [passesFrom_of_lt hmany] at hpass
      rcases List.mem_cons.1 hpass with rfl | hlater
      · exact ⟨hexact.fanIn_eq.trans (h.requestedFanIn_eq number), hexact⟩
      · exact ih _ (segmentsAfter_nextPass_lt hmany) hexact.nothingOver pass hlater

/-! ## 3. Traces -/

theorem isExact_first (factor : Factor) (h : factor.value ≤ segments) :
    (nextPass .remainderFirst factor 1 segments).IsExact factor.value := by
  rcases Nat.eq_or_lt_of_le h with heq | hlt
  · have hrequested : requestedFanIn factor.value 1 segments = segments :=
      (requestedFanIn_of_le heq.ge).trans heq
    apply isExact_nextPass 1 hrequested.le
    rw [hrequested, Nat.sub_self]
    exact Nat.dvd_zero _
  · exact isExact_nextPass 1 ((requestedFanIn_le factor.two_le 1 segments).trans h)
      (dvd_sub_requestedFanIn factor.two_le hlt (Nat.le_refl 1))

/-- With at least as many segments as the factor, all passes are exact, and all but the
first are full. -/
theorem forall_passList_remainderFirst {factor : Nat} (hmergeable : Mergeable factor segments)
    (hle : factor ≤ segments) :
    (∀ pass ∈ passList .remainderFirst factor segments, pass.IsExact factor) ∧
      ∀ pass ∈ (passList .remainderFirst factor segments).tail, pass.fanIn = factor := by
  obtain ⟨-, -, hmany⟩ := hmergeable
  rcases hmany with rfl | ⟨htwo, -⟩
  · rw [passList_one]
    exact ⟨nofun, nofun⟩
  have hfirst := isExact_first ⟨factor, htwo⟩ hle
  rw [passList_of_two_le htwo, passesFrom_of_lt (htwo.trans hle)]
  constructor
  · intro pass hpass
    rcases List.mem_cons.1 hpass with rfl | hlater
    · exact hfirst
    · exact (hfirst.nothingOver.forall_passesFrom pass hlater).2
  · intro pass hpass
    exact (hfirst.nothingOver.forall_passesFrom pass hpass).1

/-- A first pass asks for the one number of segments after which full passes leave nothing
over, and it leaves enough of them for a full pass. So in a trace every later pass is full,
no pass finds fewer segments than it asks for, and behind any of the passes a new first pass
would ask for as many segments as the factor allows. -/
theorem requestFanIn_remainder (factor segments : Nat) (log : Log) :
    let asked (passNumber left : Nat) : Nat :=
      (Logged.after (requestFanIn factor passNumber left) log).1
    (2 ≤ factor → factor < segments → ∀ passNumber ≤ 1,
      (∀ fanIn, asked passNumber segments = fanIn ↔
        2 ≤ fanIn ∧ fanIn ≤ factor ∧ factor - 1 ∣ segments - fanIn) ∧
      factor ≤ segments - (asked passNumber segments - 1)) ∧
    (factor ≤ segments → ∀ trace,
      (Attempt.after (schedule .remainderFirst factor segments) log).1 = .ok trace →
        (∀ pass ∈ trace.passes.tail, pass.fanIn = factor) ∧
        (∀ pass ∈ trace.passes, pass.fanIn = asked pass.number pass.segmentsBefore) ∧
        ∀ left ∈ trace.segmentsAfter, ∀ passNumber, asked passNumber left = factor) := by
  intro asked
  constructor
  · intro hfactor hlt passNumber hnumber
    refine ⟨fun fanIn => requestedFanIn_eq_iff hfactor hlt hnumber, ?_⟩
    show factor ≤ segments - (requestedFanIn factor passNumber segments - 1)
    have htwo := two_le_requestedFanIn hfactor passNumber segments
    have hle := requestedFanIn_le hfactor passNumber segments
    have hrest := nothingOver_sub (Nat.one_le_of_lt htwo) (hle.trans hlt.le)
      (dvd_sub_requestedFanIn hfactor hlt hnumber)
    exact hrest.factor_le (by omega)
  · intro hle trace htrace
    obtain ⟨hmergeable, rfl⟩ := schedule_eq_ok_iff.1 htrace
    obtain ⟨hexact, hfull⟩ := forall_passList_remainderFirst hmergeable hle
    refine ⟨hfull, fun pass hpass => (hexact pass hpass).fanIn_eq, ?_⟩
    intro left hleft passNumber
    obtain ⟨pass, hpass, rfl⟩ := List.mem_map.1 hleft
    exact (hexact pass hpass).nothingOver.requestedFanIn_eq passNumber

/-- With a factor of five, a first pass merges three of 23 segments, and all passes behind it
merge five. -/
theorem requestFanIn_remainder_five_twentyThree :
    (Logged.after (requestFanIn 5 1 23) #[]).1 = 3 ∧
    ∃ trace, (Attempt.after (schedule .remainderFirst 5 23) #[]).1 = .ok trace ∧
      ∀ pass ∈ trace.passes.tail, pass.fanIn = 5 := by
  obtain ⟨hfirst, htrace⟩ := requestFanIn_remainder 5 23 #[]
  obtain ⟨hasked, -⟩ := hfirst (by decide) (by decide) 1 (by decide)
  have hmergeable : Mergeable 5 23 := by decide
  have hschedule := hmergeable.schedule_eq .remainderFirst #[]
  exact ⟨(hasked 3).2 ⟨by decide, by decide, by decide⟩, _, hschedule,
    (htrace (by decide) _ hschedule).1⟩

end ExternalSort.Merge
