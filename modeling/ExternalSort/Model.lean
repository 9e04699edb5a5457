import ExternalSort.Merge.Schedule
import ExternalSort.Settings.Basic

/-!
# The sorting model

A model answers for a whole job: how large a record is, how often the sort
buffer spills, and how the spill files are merged. It is made of settings that
have passed `Settings.validate`.

`Model.plan` puts the answers together for one workload, `Model.sweep` predicts
the spills of several numbers of records, and `Model.recordsFor` finds the number
of records for a number of spills.
-/

namespace ExternalSort

/-! ## 1. Faults -/

/-- Why a model could not be built or had no answer. -/
inductive ModelError where
  | settings (cause : SettingsError)
  | size (cause : SizeError)
  | spill (cause : Spill.ConfigError)
  /-- So many segments could not be merged. -/
  | merge (segments : Nat) (cause : Merge.MergeError)
  deriving DecidableEq, Repr

namespace ModelError

/-- The text of the error. -/
def message : ModelError → String
  | .settings cause => cause.message
  | .size cause => cause.message
  | .spill cause => cause.message
  | .merge segments _ => s!"cannot schedule merge of {segments} segments"

/-- The text of the error behind this one. -/
def cause? : ModelError → Option String
  | .settings cause => cause.cause?
  | .merge _ cause => some cause.message
  | .size _ | .spill _ => none

end ModelError

/-! ## 2. Plans -/

/-- Records of one shape that pass through one sort buffer. -/
structure Workload where
  records : UInt64
  keyBytes : Int64
  valueBytes : Int64
  deriving DecidableEq, Repr

/-- All that is predicted for a workload. -/
structure Plan where
  workload : Workload
  recordSize : RecordSize
  spill : Spill.Prediction
  /-- The merge of the spill files into one. -/
  merge : Merge.Trace
  deriving DecidableEq, Repr

/-- The report of a plan. -/
def Plan.display (plan : Plan) : String :=
  let merge := if plan.merge.isEmpty then "no merge needed\n" else plan.merge.display
  s!"records: {plan.workload.records.toNat}\n" ++ s!"record size: {plan.recordSize.display}\n" ++
    s!"{plan.spill.display}\n" ++ merge

/-! ## 3. Models -/

/-- Settings that can be worked with, and the accountant for them. -/
structure Model where
  settings : Settings
  accountant : Spill.Accountant
  accountant_eq : settings.accountant = .ok accountant

namespace Model

/-- Builds the model for some settings, and tells of it. -/
def create (settings : Settings) : Reported ModelError Model :=
  match h : settings.accountant with
  | .error cause => throw (.settings cause)
  | .ok accountant => do
    emit (.modelConfigured accountant.capacity.toNat accountant.thresholdBytes
      settings.sortFactor.toNat settings.partitions.toNat settings.mergePolicy)
    return ⟨settings, accountant, h⟩

/-- The size of a record with a key and a value of these lengths. -/
def recordSize (keyBytes valueBytes : Int64) : Except ModelError RecordSize :=
  (RecordSize.ofLengths keyBytes valueBytes).mapError .size

/-- The spills of a number of records of one size. -/
def predict (model : Model) (records : UInt64) (size : RecordSize) :
    Reported ModelError Spill.Prediction :=
  (model.accountant.predict records size).adapt .spill

/-- The merge of `segments` segments into one. -/
def mergeTrace (model : Model) (segments : Nat) : Reported ModelError Merge.Trace :=
  (Merge.schedule model.settings.mergePolicy model.settings.sortFactor.toNat segments).adapt
    (.merge segments)

/-- All predictions for a workload. Without a spill there is still one segment,
the output itself, so no merge starts from nothing. -/
def plan (model : Model) (workload : Workload) : Reported ModelError Plan := do
  let recordSize ← Model.recordSize workload.keyBytes workload.valueBytes
  let spill ← model.predict workload.records recordSize
  let merge ← model.mergeTrace (max spill.spillFiles 1)
  return { workload, recordSize, spill, merge }

/-- The predictions for several numbers of records, in their order. The first
one that cannot be made ends the sweep. -/
def sweep (model : Model) (counts : List UInt64) (keyBytes valueBytes : Int64) :
    Reported ModelError (List (UInt64 × Spill.Prediction)) := do
  let size ← Model.recordSize keyBytes valueBytes
  counts.mapM fun records => do return (records, ← model.predict records size)

/-- The number of records of one shape that makes `spills` spills. -/
def recordsFor (model : Model) (spills : UInt64) (keyBytes valueBytes : Int64) :
    Except ModelError Nat := do
  let size ← Model.recordSize keyBytes valueBytes
  (model.accountant.recordsFor spills size).mapError .spill

end Model

end ExternalSort
