import ExternalSort.Binary64.Rounding
import ExternalSort.Binary64.Shortest
import ExternalSort.Bisection
import ExternalSort.Event
import ExternalSort.Record
import ExternalSort.Spill.Prediction
import ExternalSort.Spill.Threshold

/-!
# Accounting for spills

An accountant knows the capacity of a sort buffer, the share of it that may fill
up before a spill, and the number of partitions of the output. It answers two
questions about records of one size:

* `predict`: how many spill files and how many bytes a number of records makes,
* `recordsFor`: how many records make a number of spill files, which inverts the
  first.

Spills are counted with the exact threshold. Reports show it rounded
(`thresholdBytes`).
-/

namespace ExternalSort.Spill

/-! ## 1. Faults -/

/-- Why a buffer cannot be accounted for, or a question has no answer. -/
inductive ConfigError where
  | emptyBuffer
  | fractionOutOfRange (fraction : Binary64)
  | noPartitions
  /-- A total for this many records is too large to be reported. -/
  | totalTooLarge (records : UInt64)
  /-- A record with this footprint does not fit below the threshold. -/
  | recordTooLarge (footprint : Nat)
  /-- So many spills hold more records than can be reported. -/
  | tooManyRecords (spills : UInt64)
  deriving DecidableEq, Repr

namespace ConfigError

/-- The name of the value at fault. -/
def field : ConfigError → String
  | .emptyBuffer => "buffer_capacity_bytes"
  | .fractionOutOfRange _ => "spill_threshold_fraction"
  | .noPartitions => "num_partitions"
  | .totalTooLarge _ => "record_count"
  | .recordTooLarge _ => "buffer_footprint"
  | .tooManyRecords _ => "desired_spills"

/-- The value at fault. -/
def value : ConfigError → String
  | .emptyBuffer => "0"
  | .fractionOutOfRange fraction => fraction.display
  | .noPartitions => "0"
  | .totalTooLarge records => toString records.toNat
  | .recordTooLarge footprint => toString footprint
  | .tooManyRecords spills => toString spills.toNat

/-- What is wrong with the value. -/
def reason : ConfigError → String
  | .emptyBuffer => "must be > 0"
  | .fractionOutOfRange _ => "must be in (0, 1]"
  | .noPartitions => "must be >= 1"
  | .totalTooLarge _ => "total overflows u64"
  | .recordTooLarge _ => "record is larger than the spill threshold"
  | .tooManyRecords _ => "record count overflows u64"

/-- The text of the error. -/
def message (error : ConfigError) : String :=
  s!"invalid config: {error.field} = {error.value} ({error.reason})"

end ConfigError

/-! ## 2. Accountants -/

/-- The occupancy at which a buffer spills, rounded for reports. The capacity is
rounded first, then the product. -/
def thresholdBytes (capacity : UInt64) (fraction : Binary64) : Binary64 :=
  (Binary64.ofNat capacity.toNat).mul fraction

/-- A buffer that can be accounted for: it holds something, it spills at a
positive share of its capacity, and the output has a partition. -/
structure Accountant where
  capacity : UInt64
  fraction : Binary64
  partitions : UInt32
  capacity_pos : 0 < capacity.toNat
  fraction_share : fraction.isPositiveShare
  partitions_pos : 0 < partitions.toNat
  deriving DecidableEq, Repr

namespace Accountant

/-- Checks the capacity, the fraction and the partitions, in this order. -/
def create (capacity : UInt64) (fraction : Binary64) (partitions : UInt32) :
    Except ConfigError Accountant :=
  if hcapacity : capacity.toNat = 0 then .error .emptyBuffer
  else if hfraction : fraction.isPositiveShare = false then .error (.fractionOutOfRange fraction)
  else if hpartitions : partitions.toNat = 0 then .error .noPartitions
  else
    .ok
      { capacity
        fraction
        partitions
        capacity_pos := Nat.pos_of_ne_zero hcapacity
        fraction_share := Bool.not_eq_false _ ▸ hfraction
        partitions_pos := Nat.pos_of_ne_zero hpartitions }

/-- The exact occupancy at which the buffer spills. -/
def threshold (accountant : Accountant) : Threshold :=
  .ofBuffer accountant.capacity accountant.fraction

/-- The occupancy at which the buffer spills, rounded for reports. -/
def thresholdBytes (accountant : Accountant) : Binary64 :=
  Spill.thresholdBytes accountant.capacity accountant.fraction

/-- The bytes of all partition markers. -/
def markerBytes (accountant : Accountant) : Nat :=
  partitionMarkerBytes * accountant.partitions.toNat

/-! ## 3. From records to spills -/

/-- A total for `records` records, if it can be reported. -/
def reportable (records : UInt64) (total : Option Nat) : Except ConfigError Nat :=
  match total with
  | some n => .ok n
  | none => .error (.totalTooLarge records)

/-- The prediction for `records` records of one size. -/
def forecast (accountant : Accountant) (records : UInt64) (size : RecordSize) :
    Except ConfigError Prediction := do
  let buffered := records.toNat * size.bufferFootprint
  let wire := records.toNat * size.wireFootprint
  let payload := records.toNat * size.payloadBytes
  let spillFiles ← reportable records (accountant.threshold.spillsFor buffered)
  let wireBytes ← reportable records (countWithin? wire)
  let materializedBytes ← reportable records (countWithin? (wire + accountant.markerBytes))
  let payloadBytes ← reportable records (countWithin? payload)
  return { spillFiles, wireBytes, materializedBytes, payloadBytes }

/-- Makes a prediction and tells of it. -/
def predict (accountant : Accountant) (records : UInt64) (size : RecordSize) :
    Reported ConfigError Prediction := do
  let prediction ← accountant.forecast records size
  emit (.spillsPredicted records.toNat size.bufferFootprint accountant.thresholdBytes
    prediction.spillFiles prediction.materializedBytes)
  return prediction

/-! ## 4. From spills to records -/

/-- `bytes` bytes make at most `spills` spills. -/
def fitsIn (threshold : Threshold) (spills bytes : Nat) : Bool :=
  match threshold.spillsFor bytes with
  | some count => count ≤ spills
  | none => false

/-- The largest number of records of one size that makes `spills` spills. A
record must fit below the threshold, or some numbers of spills are passed over. -/
def recordsFor (accountant : Accountant) (spills : UInt64) (size : RecordSize) :
    Except ConfigError Nat :=
  let threshold := accountant.threshold
  let holds (records : Nat) : Bool :=
    fitsIn threshold spills.toNat (records * size.bufferFootprint)
  if !fitsIn threshold 1 size.bufferFootprint then
    .error (.recordTooLarge size.bufferFootprint)
  else if holds largestCount then .error (.tooManyRecords spills)
  else .ok (bisect holds 0 largestCount)

end Accountant

/-- The prediction of an accountant that is made for one question. -/
def predict (records : UInt64) (size : RecordSize) (capacity : UInt64) (fraction : Binary64)
    (partitions : UInt32) : Reported ConfigError Prediction := do
  (← Accountant.create capacity fraction partitions).predict records size

end ExternalSort.Spill
