import ExternalSort.Proofs.Spill.Count

/-!
# Spill counting in 128-bit words

Counts and totals are computed on natural numbers here, and in words of 128 bits
on a machine. The definitions with a question mark do the same arithmetic in
words. They give up as soon as one result, or a result on the way, does not fit,
where a difference would be negative, or where a divisor is zero.

Results:
1. `Threshold.spillsFor?_eq`: the long division fits if its divisor leaves a bit
   to spare.
2. `Accountant.forecast?_eq`: every forecast fits if the sizes of a record fit
   into 64 bits each.
-/

namespace ExternalSort.Spill

/-! ## 1. Words -/

/-- A number that fits into a word. -/
def word? (n : Nat) : Option Nat := if n < 2 ^ 128 then some n else none

theorem word?_of_lt {n : Nat} (h : n < 2 ^ 128) : word? n = some n := if_pos h

/-- A difference that is not negative. -/
def difference? (a b : Nat) : Option Nat := if b ≤ a then some (a - b) else none

theorem difference?_of_le {a b : Nat} (h : b ≤ a) : difference? a b = some (a - b) := if_pos h

/-! ## 2. The long division -/

namespace Division

variable {divisor : Nat} {state : Division}

/-- `ofDividend` in words. -/
def ofDividend? (divisor dividend : Nat) : Option Division :=
  if divisor = 0 then none else some (ofDividend divisor dividend)

/-- `double` in words. -/
def double? (divisor : Nat) (state : Division) : Option Division := do
  let quotient ← word? (2 * state.quotient)
  let remainder ← word? (2 * state.remainder)
  if divisor ≤ remainder then
    return ⟨← word? (quotient + 1), ← difference? remainder divisor⟩
  else return ⟨quotient, remainder⟩

/-- `doubleTimes` in words. -/
def doubleTimes? (divisor : Nat) : Nat → Division → Option (Option Division)
  | 0, state => some (some state)
  | steps + 1, state =>
    if largestCount < state.quotient then some none
    else (state.double? divisor).bind (doubleTimes? divisor steps)

/-- `roundedUp` in words. -/
def roundedUp? (state : Division) : Option Nat :=
  if state.remainder = 0 then some state.quotient else word? (state.quotient + 1)

/-- The quotient can be rounded up in words. -/
def HasRoom (state : Division) : Prop := state.remainder ≠ 0 → state.quotient + 1 < 2 ^ 128

theorem roundedUp?_eq (h : state.HasRoom) : state.roundedUp? = some state.roundedUp := by
  unfold roundedUp? roundedUp
  split
  · rfl
  · next hrest => exact word?_of_lt (h hrest)

/-- A divisor of one leaves nothing over, and a larger one at most half of the
word. -/
theorem hasRoom_ofDividend {dividend : Nat} (hpos : 0 < divisor) (hword : dividend < 2 ^ 128) :
    (ofDividend divisor dividend).HasRoom := by
  intro hrest
  have htwo : 2 ≤ divisor := by
    by_contra hone
    obtain rfl : divisor = 1 := by omega
    exact hrest (Nat.mod_one dividend)
  have hhalf : dividend / divisor ≤ dividend / 2 := Nat.div_le_div_left htwo two_pos
  simp only [ofDividend]
  omega

/-- A step on a small quotient fits, and what it gives can be rounded up. -/
theorem double?_eq (divisor : Nat) (hquotient : state.quotient ≤ largestCount)
    (hremainder : state.remainder < 2 ^ 127) :
    state.double? divisor = some (state.double divisor) ∧ (state.double divisor).HasRoom := by
  unfold largestCount at hquotient
  unfold double? double HasRoom
  rw [word?_of_lt (by omega), word?_of_lt (by omega)]
  simp only [Option.bind_eq_bind, Option.bind_some]
  split
  · next hle =>
    rw [word?_of_lt (by omega), difference?_of_le hle]
    refine ⟨rfl, fun _ => ?_⟩
    simp only
    omega
  · refine ⟨rfl, fun _ => ?_⟩
    simp only
    omega

/-- A run fits: the quotient is small before each step, and the remainder stays
below the divisor. -/
theorem doubleTimes?_eq (hdivisor : divisor ≤ 2 ^ 127) (hlt : state.remainder < divisor)
    (steps : Nat) :
    state.doubleTimes? divisor steps = some (state.doubleTimes divisor steps) := by
  induction steps generalizing state with
  | zero => rfl
  | succ steps ih =>
    rw [doubleTimes?, doubleTimes]
    split
    · rfl
    · next hsmall =>
      obtain ⟨hstep, -⟩ := double?_eq divisor (Nat.not_lt.1 hsmall) (by omega)
      rw [hstep, Option.bind_some]
      exact ih (remainder_double_lt hlt)

theorem hasRoom_of_doubleTimes (hdivisor : divisor ≤ 2 ^ 127) (hlt : state.remainder < divisor)
    (hroom : state.HasRoom) {steps : Nat} {last : Division}
    (hrun : state.doubleTimes divisor steps = some last) : last.HasRoom := by
  induction steps generalizing state with
  | zero =>
    cases hrun
    exact hroom
  | succ steps ih =>
    rw [doubleTimes] at hrun
    split at hrun
    · cases hrun
    · next hsmall =>
      obtain ⟨-, hnext⟩ := double?_eq divisor (Nat.not_lt.1 hsmall) (by omega)
      exact ih (remainder_double_lt hlt) hnext hrun

end Division

/-- `spillsFor` in words. -/
def Threshold.spillsFor? (threshold : Threshold) (bytes : Nat) : Option (Option Nat) := do
  let start ← Division.ofDividend? threshold.bytes.numerator bytes
  match ← start.doubleTimes? threshold.bytes.numerator threshold.bytes.shift with
  | none => return none
  | some last => return countWithin? (← last.roundedUp?)

/-- A division fits if its divisor leaves a bit to spare. -/
theorem Threshold.spillsFor?_eq {threshold : Threshold} (hpos : 0 < threshold.bytes.numerator)
    (hspare : threshold.bytes.numerator ≤ 2 ^ 127) {bytes : Nat} (hword : bytes < 2 ^ 128) :
    threshold.spillsFor? bytes = some (threshold.spillsFor bytes) := by
  let start := Division.ofDividend threshold.bytes.numerator bytes
  have hlt : start.remainder < threshold.bytes.numerator := Nat.mod_lt bytes hpos
  have hstart : Division.ofDividend? threshold.bytes.numerator bytes = some start :=
    if_neg (Nat.ne_of_gt hpos)
  have hspills : threshold.spillsFor bytes
      = (start.doubleTimes threshold.bytes.numerator threshold.bytes.shift).bind
          fun last => countWithin? last.roundedUp := rfl
  have hrun := Division.doubleTimes?_eq hspare hlt threshold.bytes.shift
  rw [hspills, spillsFor?, hstart, Option.bind_eq_bind, Option.bind_some, hrun]
  cases hlast : start.doubleTimes threshold.bytes.numerator threshold.bytes.shift with
  | none => rfl
  | some last =>
    have hroom := Division.hasRoom_of_doubleTimes hspare hlt
      (Division.hasRoom_ofDividend hpos hword) hlast
    simp only [Option.bind_eq_bind, Option.bind_some, Division.roundedUp?_eq hroom]
    rfl

/-! ## 3. Forecasts -/

/-- The sizes of a record fit into 64 bits each, its key and value also
together. -/
structure FitsWords (size : RecordSize) : Prop where
  bufferFootprint_lt : size.bufferFootprint < 2 ^ 64
  wireFootprint_lt : size.wireFootprint < 2 ^ 64
  payloadBytes_lt : size.payloadBytes < 2 ^ 64

namespace Accountant

/-- `forecast` in words, with the product that the threshold is made of. -/
def forecast? (accountant : Accountant) (records : UInt64) (size : RecordSize) :
    Option (Except ConfigError Prediction) := do
  let numerator ← word? (accountant.capacity.toNat * accountant.fraction.dyadic.numerator)
  let buffered ← word? (records.toNat * size.bufferFootprint)
  let wire ← word? (records.toNat * size.wireFootprint)
  let payload ← word? (records.toNat * size.payloadBytes)
  let markers ← word? (partitionMarkerBytes * accountant.partitions.toNat)
  let materialized ← word? (wire + markers)
  let spills ← Threshold.spillsFor? ⟨numerator, accountant.fraction.dyadic.shift⟩ buffered
  return do
    let spillFiles ← reportable records spills
    let wireBytes ← reportable records (countWithin? wire)
    let materializedBytes ← reportable records (countWithin? materialized)
    let payloadBytes ← reportable records (countWithin? payload)
    return { spillFiles, wireBytes, materializedBytes, payloadBytes }

theorem word?_mul {size : Nat} (records : UInt64) (h : size < 2 ^ 64) :
    word? (records.toNat * size) = some (records.toNat * size) :=
  word?_of_lt (mul_lt_two_pow records.toNat_lt h)

/-- No number on the way to a forecast is too large. -/
theorem forecast?_eq (accountant : Accountant) (records : UInt64) {size : RecordSize}
    (h : FitsWords size) :
    accountant.forecast? records size = some (accountant.forecast records size) := by
  have hthreshold : accountant.capacity.toNat * accountant.fraction.dyadic.numerator < 2 ^ 117 :=
    accountant.numerator_threshold_lt
  have hbuffered : records.toNat * size.bufferFootprint < 2 ^ 128 :=
    mul_lt_two_pow records.toNat_lt h.bufferFootprint_lt
  have hwire : records.toNat * size.wireFootprint ≤ (2 ^ 64 - 1) * (2 ^ 64 - 1) :=
    Nat.mul_le_mul (Nat.le_pred_of_lt records.toNat_lt) (Nat.le_pred_of_lt h.wireFootprint_lt)
  have hpartitions := accountant.partitions.toNat_lt
  have hspills := Threshold.spillsFor?_eq accountant.numerator_threshold_pos
    (by have := accountant.numerator_threshold_lt; omega) hbuffered
  unfold forecast? partitionMarkerBytes
  rw [word?_of_lt (by omega), word?_mul records h.bufferFootprint_lt,
    word?_mul records h.wireFootprint_lt, word?_mul records h.payloadBytes_lt,
    word?_of_lt (by omega)]
  simp only [Option.bind_eq_bind, Option.bind_some]
  rw [word?_of_lt (by omega)]
  simp only [Option.bind_some]
  exact congrArg (Option.bind · _) hspills

end Accountant

end ExternalSort.Spill
