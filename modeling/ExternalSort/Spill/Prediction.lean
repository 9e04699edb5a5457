/-!
# Spill predictions

What is expected to happen when a number of records passes through the sort
buffer: how many spill files there are, and how many bytes the output takes.
-/

namespace ExternalSort.Spill

/-- The bytes that end each partition of the merged output. -/
def partitionMarkerBytes : Nat := 6

/-- The expected files and bytes of a number of records. -/
structure Prediction where
  spillFiles : Nat
  /-- The records with their headers. -/
  wireBytes : Nat
  /-- The merged output: the records and the markers of its partitions. -/
  materializedBytes : Nat
  /-- The keys and the values alone. -/
  payloadBytes : Nat
  deriving DecidableEq, Repr

/-- The report of a prediction. -/
def Prediction.display (prediction : Prediction) : String :=
  s!"spill files: {prediction.spillFiles}, payload bytes: {prediction.payloadBytes}, " ++
    s!"wire bytes: {prediction.wireBytes}, materialized bytes: {prediction.materializedBytes}"

end ExternalSort.Spill
