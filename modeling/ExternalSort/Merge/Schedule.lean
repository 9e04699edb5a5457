import ExternalSort.CeilDiv
import ExternalSort.Event

/-!
# Merge schedules

A schedule reduces a number of segments to one in passes that each merge at most
`factor` segments. A full pass removes `factor - 1` of them, so `n` segments
take `ceilDiv (n - 1) (factor - 1)` passes under either policy (`passCount`).

`schedule` refuses inputs that cannot be merged or would take too many passes,
and otherwise runs the passes one by one. The passes end because each of them
merges at least two segments (`Policy.two_le_fanIn`).
-/

namespace ExternalSort.Merge

/-! ## 1. The size of a pass -/

/-- The size of the first pass under `remainderFirst`, when more segments are
left than one pass can merge. It leaves `1 + k * (factor - 1)` segments, so
every later pass is full. Any other pass, and any pass that can merge all that
is left, has no size of its own. -/
def firstPassSize? (factor passNumber segments : Nat) : Option Nat :=
  if 1 < passNumber ∨ segments ≤ factor ∨ factor ≤ 1 then none
  else
    let surplus := (segments - 1) % (factor - 1)
    some (if surplus = 0 then factor else surplus + 1)

/-- How many segments a pass under `remainderFirst` asks for. -/
def requestedFanIn (factor passNumber segments : Nat) : Nat :=
  (firstPassSize? factor passNumber segments).getD factor

/-- Tells of a first pass that has a size of its own. -/
def noteFirstPass (factor passNumber segments : Nat) : Logged Unit :=
  match firstPassSize? factor passNumber segments with
  | some fanIn => emit (.firstPassSized factor segments fanIn)
  | none => pure ()

/-- `requestedFanIn`, and the event that goes with it. -/
def requestFanIn (factor passNumber segments : Nat) : Logged Nat := do
  noteFirstPass factor passNumber segments
  return requestedFanIn factor passNumber segments

/-- How many segments a pass merges. No pass merges more than are left. -/
def Policy.fanIn (policy : Policy) (factor passNumber segments : Nat) : Nat :=
  match policy with
  | .remainderFirst => min (requestedFanIn factor passNumber segments) segments
  | .remainderLast => min segments factor

/-- Tells how the size of a pass was found, where that is worth telling. -/
def Policy.note (policy : Policy) (factor passNumber segments : Nat) : Logged Unit :=
  match policy with
  | .remainderFirst => noteFirstPass factor passNumber segments
  | .remainderLast => pure ()

theorem two_le_requestedFanIn {factor : Nat} (hfactor : 2 ≤ factor) (passNumber segments : Nat) :
    2 ≤ requestedFanIn factor passNumber segments := by
  unfold requestedFanIn firstPassSize?
  split
  · exact hfactor
  · simp only [Option.getD_some]
    split <;> omega

/-- A pass merges at least two segments if there are two and the factor allows
it. So each pass makes progress. -/
theorem Policy.two_le_fanIn {factor segments : Nat} (hfactor : 2 ≤ factor)
    (hsegments : 2 ≤ segments) (policy : Policy) (passNumber : Nat) :
    2 ≤ policy.fanIn factor passNumber segments := by
  cases policy
  · exact Nat.le_min.2 ⟨two_le_requestedFanIn hfactor passNumber segments, hsegments⟩
  · exact Nat.le_min.2 ⟨hsegments, hfactor⟩

/-! ## 2. Inputs -/

/-- A factor with which a pass makes progress. -/
structure Factor where
  value : Nat
  two_le : 2 ≤ value

/-- The largest number of passes of one trace. -/
def maxPasses : Nat := 2 ^ 20

/-- The number of passes that reduce `segments` segments to one. -/
def passCount (factor segments : Nat) : Nat := ceilDiv (segments - 1) (factor - 1)

/-- Why segments cannot be merged. -/
inductive MergeError where
  | zeroFactor
  | zeroSegments
  /-- With a factor of one no pass removes a segment. -/
  | cannotReduce (segments : Nat)
  | tooManyPasses (segments passes : Nat)
  deriving DecidableEq, Repr

/-- The text of the error. -/
def MergeError.message : MergeError → String
  | .zeroFactor => "invalid config: factor = 0 (must be >= 1)"
  | .zeroSegments => "invalid config: initial_segments = 0 (must be >= 1)"
  | .cannotReduce segments => s!"merge factor 1 cannot reduce {segments} segments to one"
  | .tooManyPasses segments passes =>
    s!"merging {segments} segments takes {passes} passes (max {maxPasses})"

/-- Checks the inputs of a merge. Gives the factor to merge with, or nothing if
there is nothing to merge. -/
def checkInputs (factor segments : Nat) : Except MergeError (Option Factor) :=
  if hzero : factor = 0 then .error .zeroFactor
  else if segments = 0 then .error .zeroSegments
  else if segments = 1 then .ok none
  else if hone : factor = 1 then .error (.cannotReduce segments)
  else
    let passes := passCount factor segments
    if maxPasses < passes then .error (.tooManyPasses segments passes)
    else .ok (some ⟨factor, by omega⟩)

/-! ## 3. Passes -/

/-- Merges `segments` segments into one, behind the passes that went before. -/
def runPasses (policy : Policy) (factor : Factor) (passes : Array Pass) (segments : Nat) :
    Logged (Array Pass) := do
  if h : 1 < segments then
    let number := passes.size + 1
    policy.note factor.value number segments
    let pass := Pass.merging number segments (policy.fanIn factor.value number segments)
    emit (.passMerged pass)
    runPasses policy factor (passes.push pass) pass.segmentsAfter
  else return passes
termination_by segments
decreasing_by
  have := policy.two_le_fanIn factor.two_le h (passes.size + 1)
  simp only [Pass.merging]
  omega

/-- The trace of a merge of `segments` segments with passes of at most `factor`
of them. -/
def schedule (policy : Policy) (factor segments : Nat) : Reported MergeError Trace := do
  let checked ← checkInputs factor segments
  let passes ←
    match checked with
    | none => pure #[]
    | some usable => runPasses policy usable #[] segments
  return ⟨policy, factor, segments, passes.toList⟩

end ExternalSort.Merge
