import Mathlib.Data.Nat.PSub
import ExternalSort.Proofs.Merge.FanIns

/-!
# The limit on passes

Inputs are checked before the first pass: the number of passes is computed, and too many
of them are refused. Here the passes are made without that check, turn by turn. A turn
(`Progress.turn?`) gives up where a difference would be negative or a divisor would be
zero.

Results:
1. `Progress.run?_eq_some_iff`: no turn gives up. The turns end with one segment, and
   there are as many of them as there are passes to come.
2. `schedule_limit_exact`: so the check refuses just what would take too many turns, and
   it names their number.
-/

namespace ExternalSort.Merge

variable {policy : Policy} {segments : Nat}

/-! ## 1. Turns -/

/-- A remainder, if there is something to divide by. -/
def remainder? (a b : Nat) : Option Nat := if b = 0 then none else some (a % b)

/-- `requestedFanIn`, in arithmetic that gives up. -/
def requestedFanIn? (factor passNumber segments : Nat) : Option Nat :=
  if 1 < passNumber ∨ segments ≤ factor ∨ factor ≤ 1 then some factor
  else do
    let surplus ← remainder? (← segments.psub 1) (← factor.psub 1)
    return if surplus = 0 then factor else surplus + 1

/-- `Policy.fanIn`, in arithmetic that gives up. -/
def Policy.fanIn? (policy : Policy) (factor passNumber segments : Nat) : Option Nat :=
  match policy with
  | .remainderFirst => (requestedFanIn? factor passNumber segments).map (min · segments)
  | .remainderLast => some (min segments factor)

/-- The passes so far, and the segments that are left. -/
structure Progress where
  passes : List Pass
  segments : Nat
  deriving DecidableEq, Repr

namespace Progress

/-- One more pass. -/
def turn? (policy : Policy) (factor : Nat) (progress : Progress) : Option Progress := do
  let number := progress.passes.length + 1
  let fanIn ← policy.fanIn? factor number progress.segments
  let left ← progress.segments.psub (← fanIn.psub 1)
  return ⟨progress.passes ++ [⟨number, progress.segments, fanIn, left⟩], left⟩

/-- The state in the end, if it is reached in exactly so many turns. There is a turn as
long as more than one segment is left. -/
def run? (policy : Policy) (factor : Nat) : Nat → Progress → Option Progress
  | 0, progress => if 1 < progress.segments then none else some progress
  | turns + 1, progress =>
    if 1 < progress.segments then (progress.turn? policy factor).bind (run? policy factor turns)
    else none

end Progress

theorem psub_eq_sub {a b : Nat} (h : b ≤ a) : a.psub b = some (a - b) :=
  Nat.psub_eq_some.2 (Nat.sub_add_cancel h)

theorem requestedFanIn?_eq (factor passNumber segments : Nat) :
    requestedFanIn? factor passNumber segments
      = some (requestedFanIn factor passNumber segments) := by
  unfold requestedFanIn? requestedFanIn firstPassSize?
  split
  · rfl
  · next hown =>
    have hdivisor : factor - 1 ≠ 0 := by omega
    rw [psub_eq_sub (by omega), psub_eq_sub (by omega)]
    simp only [Option.bind_eq_bind, Option.bind_some, remainder?, if_neg hdivisor]
    rfl

theorem Policy.fanIn?_eq (policy : Policy) (factor passNumber segments : Nat) :
    policy.fanIn? factor passNumber segments = some (policy.fanIn factor passNumber segments) := by
  cases policy with
  | remainderFirst =>
    rw [fanIn?, requestedFanIn?_eq]
    rfl
  | remainderLast => rfl

namespace Progress

/-- A turn adds the next pass, and it does not give up. -/
theorem turn?_eq {factor : Factor} {passes : List Pass} (h : 1 < segments) :
    let next := nextPass policy factor (passes.length + 1) segments
    turn? policy factor.value ⟨passes, segments⟩
      = some ⟨passes ++ [next], next.segmentsAfter⟩ := by
  intro next
  have htwo := policy.two_le_fanIn factor.two_le h (passes.length + 1)
  have hle := policy.fanIn_le_segments factor.value (passes.length + 1) segments
  have hremoved : (policy.fanIn factor.value (passes.length + 1) segments).psub 1
      = some (policy.fanIn factor.value (passes.length + 1) segments - 1) :=
    psub_eq_sub (by omega)
  have hleft : segments.psub (policy.fanIn factor.value (passes.length + 1) segments - 1)
      = some next.segmentsAfter := psub_eq_sub (by omega)
  simp only [turn?, Policy.fanIn?_eq, Option.bind_eq_bind, Option.bind_some, hremoved, hleft]
  rfl

/-- The end is reached in as many turns as there are passes to come, and in no other
number of turns. One segment is left then. -/
theorem run?_eq_some_iff (policy : Policy) (factor : Factor) (passes : List Pass)
    (h : 1 ≤ segments) {turns : Nat} {last : Progress} :
    run? policy factor.value turns ⟨passes, segments⟩ = some last ↔
      turns = (passesFrom policy factor (passes.length + 1) segments).length ∧
        last = ⟨passes ++ passesFrom policy factor (passes.length + 1) segments, 1⟩ := by
  -- On the turns, for all states: what is still to come is said by `passesFrom`.
  induction turns generalizing passes segments with
  | zero =>
    rcases Nat.eq_or_lt_of_le h with rfl | hmany
    · rw [passesFrom_of_le (Nat.le_refl 1)]
      simp [run?, eq_comm]
    · rw [passesFrom_of_lt hmany]
      simp [run?, hmany]
  | succ turns ih =>
    rcases Nat.eq_or_lt_of_le h with rfl | hmany
    · rw [passesFrom_of_le (Nat.le_refl 1)]
      simp [run?]
    · let next := nextPass policy factor (passes.length + 1) segments
      have hleft : 1 ≤ next.segmentsAfter := one_le_segmentsAfter_nextPass hmany
      have hrest := ih (passes ++ [next]) hleft
      rw [List.length_append, List.length_singleton, List.append_assoc] at hrest
      rw [run?, if_pos hmany, turn?_eq hmany, Option.bind_some, hrest, passesFrom_of_lt hmany,
        List.length_cons, Nat.succ_inj]
      rfl

end Progress

/-! ## 2. The check -/

theorem Mergeable.length_passList_le {factor : Nat} (h : Mergeable factor segments) :
    (passList policy factor segments).length ≤ maxPasses := by
  rw [h.length_passList]
  obtain ⟨-, -, rfl | ⟨-, hpasses⟩⟩ := h
  · rw [passCount_of_le factor (Nat.le_refl 1)]
    exact Nat.zero_le _
  · exact hpasses

/-- With a factor that makes progress, too many passes are the one reason to refuse
segments. -/
theorem mergeFault_tooManyPasses_iff {factor n count : Nat} (hfactor : 2 ≤ factor) :
    MergeFault factor segments (.tooManyPasses n count) ↔
      n = segments ∧ count = passCount factor segments ∧
        maxPasses < passCount factor segments := by
  constructor
  · intro h
    cases h with
    | tooManyPasses _ _ hpasses => exact ⟨rfl, rfl, hpasses⟩
  · rintro ⟨rfl, rfl, hpasses⟩
    have hmany : 2 ≤ n := by
      by_contra hfew
      rw [passCount_of_le factor (by omega)] at hpasses
      exact Nat.not_lt_zero _ hpasses
    exact .tooManyPasses hfactor hmany hpasses

/-- The check and the turns agree, also on inputs that the check refuses. Without the
check, the passes of either policy end after `⌈(segments - 1) / (factor - 1)⌉` turns and
none of these gives up. The check refuses them just if they are more than 2²⁰, and it
names their number. -/
theorem schedule_limit_exact (policy : Policy) (factor segments : Nat) (log : Log) :
    let outcome := (Attempt.after (schedule policy factor segments) log).1
    (∀ trace, outcome = .ok trace → trace.passes.length ≤ 2 ^ 20) ∧
    ∀ hfactor : 2 ≤ factor, 1 ≤ segments →
      ∃ passes : List Pass,
        passes.length = ⌈((segments : ℚ) - 1) / (factor - 1)⌉₊ ∧
        (∀ turns last, Progress.run? policy factor turns ⟨[], segments⟩ = some last ↔
          turns = passes.length ∧ last = ⟨passes, 1⟩) ∧
        (Logged.after (runPasses policy ⟨factor, hfactor⟩ #[] segments) log).1.toList = passes ∧
        (∀ trace, outcome = .ok trace → trace.passes = passes) ∧
        ∀ n count, outcome = .error (.tooManyPasses n count) ↔
          n = segments ∧ count = passes.length ∧ 2 ^ 20 < passes.length := by
  intro outcome
  constructor
  · intro trace htrace
    obtain ⟨hmergeable, rfl⟩ := schedule_eq_ok_iff.1 htrace
    exact hmergeable.length_passList_le
  · intro hfactor hsegments
    have hlength := length_passesFrom policy ⟨factor, hfactor⟩ hsegments
    refine ⟨passesFrom policy ⟨factor, hfactor⟩ 1 segments, ?_, ?_, ?_, ?_, ?_⟩
    · rw [hlength, passCount_eq_ceil hfactor hsegments]
    · intro turns last
      exact Progress.run?_eq_some_iff policy ⟨factor, hfactor⟩ [] hsegments
    · exact after_runPasses policy ⟨factor, hfactor⟩ #[] segments log
    · intro trace htrace
      obtain ⟨-, rfl⟩ := schedule_eq_ok_iff.1 htrace
      exact passList_of_two_le hfactor
    · intro n count
      rw [schedule_eq_error_iff, mergeFault_tooManyPasses_iff hfactor, hlength]
      rfl

/-- One segment too many is refused: a merge by pairs removes one segment in a pass. -/
theorem schedule_limit_exact_pairs :
    ∃ passes last, Progress.run? .remainderLast 2 (2 ^ 20 + 1) ⟨[], 2 ^ 20 + 2⟩ = some last ∧
      last = ⟨passes, 1⟩ ∧
      (Attempt.after (schedule .remainderLast 2 (2 ^ 20 + 2)) #[]).1
        = .error (.tooManyPasses (2 ^ 20 + 2) (2 ^ 20 + 1)) := by
  have hcount : ⌈(((2 ^ 20 + 2 : ℕ) : ℚ) - 1) / ((2 : ℕ) - 1)⌉₊ = 2 ^ 20 + 1 := by
    rw [Nat.ceil_eq_iff (by decide)]
    norm_num
  obtain ⟨-, hturns⟩ := schedule_limit_exact .remainderLast 2 (2 ^ 20 + 2) #[]
  obtain ⟨passes, hlength, hrun, -, -, hrefused⟩ := hturns (by decide) (by decide)
  rw [hcount] at hlength
  rw [hlength] at hrun hrefused
  exact ⟨passes, _, (hrun _ _).2 ⟨rfl, rfl⟩, rfl,
    (hrefused _ _).2 ⟨rfl, rfl, Nat.lt_succ_self _⟩⟩

end ExternalSort.Merge
