import ExternalSort.Proofs.RecordSize
import ExternalSort.Proofs.Spill.Prediction

/-!
# Predictions grow with the work

Fewer and smaller records in a buffer with more room make no more spills and no more
bytes (`totals_mono`). Totals that can be reported stay so when they shrink
(`Prediction.IsAtMost.isReportable`), so no prediction is lost.
-/

namespace ExternalSort.Spill

/-- No number of a prediction is above that of another one. -/
structure Prediction.IsAtMost (prediction bound : Prediction) : Prop where
  spillFiles_le : prediction.spillFiles ≤ bound.spillFiles
  wireBytes_le : prediction.wireBytes ≤ bound.wireBytes
  materializedBytes_le : prediction.materializedBytes ≤ bound.materializedBytes
  payloadBytes_le : prediction.payloadBytes ≤ bound.payloadBytes

theorem Prediction.IsAtMost.isReportable {prediction bound : Prediction}
    (h : prediction.IsAtMost bound) (hbound : bound.IsReportable) : prediction.IsReportable where
  spillFiles_le := Nat.le_trans h.spillFiles_le hbound.spillFiles_le
  wireBytes_le := Nat.le_trans h.wireBytes_le hbound.wireBytes_le
  materializedBytes_le := Nat.le_trans h.materializedBytes_le hbound.materializedBytes_le
  payloadBytes_le := Nat.le_trans h.payloadBytes_le hbound.payloadBytes_le

namespace Accountant

variable {accountant roomy : Accountant}

/-- The buffer spills no earlier, and the output has no more partitions. -/
structure IsRoomier (roomy accountant : Accountant) : Prop where
  exactThreshold_le : accountant.exactThreshold ≤ roomy.exactThreshold
  partitions_le : roomy.partitions.toNat ≤ accountant.partitions.toNat

theorem spills_mono (h : accountant.exactThreshold ≤ roomy.exactThreshold) {bytes bytes' : Nat}
    (hbytes : bytes' ≤ bytes) : roomy.spills bytes' ≤ accountant.spills bytes := by
  have henough : (bytes : ℚ) ≤ accountant.spills bytes * accountant.exactThreshold :=
    spills_le_iff accountant |>.1 (Nat.le_refl _)
  rw [spills_le_iff]
  calc (bytes' : ℚ) ≤ bytes := Nat.cast_le.2 hbytes
    _ ≤ accountant.spills bytes * accountant.exactThreshold := henough
    _ ≤ accountant.spills bytes * roomy.exactThreshold :=
      mul_le_mul_of_nonneg_left h (Nat.cast_nonneg _)

theorem totals_mono (h : roomy.IsRoomier accountant) {records records' : Nat}
    (hrecords : records' ≤ records) {size size' : RecordSize} (hsize : size'.IsAtMost size) :
    (roomy.totals records' size').IsAtMost (accountant.totals records size) where
  spillFiles_le := spills_mono h.exactThreshold_le
    (Nat.mul_le_mul hrecords hsize.bufferFootprint_le)
  wireBytes_le := Nat.mul_le_mul hrecords hsize.wireFootprint_le
  materializedBytes_le := Nat.add_le_add (Nat.mul_le_mul hrecords hsize.wireFootprint_le)
    (Nat.mul_le_mul_left _ h.partitions_le)
  payloadBytes_le := Nat.mul_le_mul hrecords hsize.payloadBytes_le

end Accountant

end ExternalSort.Spill
