import ExternalSort.Proofs.ExactValue
import ExternalSort.Spill.Accountant

/-!
# Spill counts are exact

The long division starts from the division with remainder of the bytes and
doubles the dividend once for each bit of the shift. `Division.ofDividend` is the
division with remainder of any dividend, so a step leads from that of `n` to that
of `2 * n` (`Division.double_ofDividend`), and the run to that of `n * 2 ^ steps`.
It may give up on the way. The quotient is then too large already, and further
bits only double it.

Results:
1. `Threshold.spillsFor_eq`: a count is the rounded-up quotient, unless it is too
   large to be reported.
2. `Accountant.spillsFor_threshold`: for an accountant this quotient is the
   ceiling of the bytes over its exact threshold.
-/

namespace ExternalSort.Spill

namespace Division

variable {divisor : Nat}

/-! ## 1. Steps -/

/-- The division with remainder. -/
def ofDividend (divisor dividend : Nat) : Division := ⟨dividend / divisor, dividend % divisor⟩

/-- A quotient with a remainder below the divisor is a division with
remainder. -/
theorem eq_ofDividend {state : Division} {dividend : Nat} (hlt : state.remainder < divisor)
    (hequation : state.quotient * divisor + state.remainder = dividend) :
    state = ofDividend divisor dividend := by
  have hpos : 0 < divisor := Nat.lt_of_le_of_lt (Nat.zero_le _) hlt
  have hsum : state.remainder + divisor * state.quotient = dividend := by
    rw [Nat.add_comm, Nat.mul_comm]
    exact hequation
  obtain ⟨hquotient, hremainder⟩ := (Nat.div_mod_unique hpos).2 ⟨hsum, hlt⟩
  rw [ofDividend, hquotient, hremainder]

theorem double_ofDividend (hpos : 0 < divisor) (dividend : Nat) :
    (ofDividend divisor dividend).double divisor = ofDividend divisor (2 * dividend) := by
  have hdividend : (ofDividend divisor dividend).quotient * divisor
      + (ofDividend divisor dividend).remainder = dividend := Nat.div_add_mod' dividend divisor
  refine eq_ofDividend (remainder_double_lt (Nat.mod_lt dividend hpos)) ?_
  rw [double_equation, hdividend]

theorem roundedUp_ofDividend (hpos : 0 < divisor) (dividend : Nat) :
    (ofDividend divisor dividend).roundedUp = ceilDiv dividend divisor := by
  rw [ceilDiv_eq_div_add hpos, ofDividend, roundedUp]
  split <;> rfl

/-! ## 2. Runs -/

/-- A run that does not give up multiplies the dividend by a power of two. -/
theorem doubleTimes_eq_some (hpos : 0 < divisor) {steps dividend : Nat} {state : Division}
    (h : (ofDividend divisor dividend).doubleTimes divisor steps = some state) :
    state = ofDividend divisor (dividend * 2 ^ steps) := by
  induction steps generalizing dividend with
  | zero =>
    rw [doubleTimes, Option.some.injEq] at h
    rw [pow_zero, mul_one, ← h]
  | succ steps ih =>
    rw [doubleTimes] at h
    split at h
    · cases h
    · rw [double_ofDividend hpos] at h
      rw [ih h, pow_succ']
      congr 1
      ring

theorem largestCount_lt_of_doubleTimes_eq_none (hpos : 0 < divisor) {steps dividend : Nat}
    (h : (ofDividend divisor dividend).doubleTimes divisor steps = none) :
    largestCount < ceilDiv (dividend * 2 ^ steps) divisor := by
  induction steps generalizing dividend with
  | zero => cases h
  | succ steps ih =>
    rw [doubleTimes] at h
    split at h
    · next hlarge =>
      calc largestCount < dividend / divisor := hlarge
        _ ≤ ceilDiv dividend divisor := Nat.div_le_div_right (by omega)
        _ ≤ ceilDiv (dividend * 2 ^ (steps + 1)) divisor :=
          ceilDiv_le_ceilDiv hpos (Nat.le_mul_of_pos_right _ (Nat.two_pow_pos _))
    · rw [double_ofDividend hpos] at h
      have hlarge := ih h
      rwa [Nat.mul_comm 2, Nat.mul_assoc, ← pow_succ'] at hlarge

end Division

/-! ## 3. Counts -/

namespace Threshold

variable {threshold : Threshold}

/-- A count is the rounded-up quotient, unless it is too large to be
reported. -/
theorem spillsFor_eq (hpos : 0 < threshold.bytes.numerator) (bytes : Nat) :
    threshold.spillsFor bytes = countWithin? (threshold.ceiling bytes) := by
  unfold spillsFor ceiling
  simp only
  cases hrun : (Division.ofDividend threshold.bytes.numerator bytes).doubleTimes
      threshold.bytes.numerator threshold.bytes.shift with
  | none =>
    have hlarge := Division.largestCount_lt_of_doubleTimes_eq_none hpos hrun
    rw [Division.ofDividend] at hrun
    rw [hrun, Option.bind_none, countWithin?, if_neg (Nat.not_le.2 hlarge)]
  | some state =>
    have hstate := Division.doubleTimes_eq_some hpos hrun
    rw [Division.ofDividend] at hrun
    rw [hrun, Option.bind_some, hstate, Division.roundedUp_ofDividend hpos]

theorem ceiling_eq_ceil (hpos : 0 < threshold.bytes.numerator) (bytes : Nat) :
    threshold.ceiling bytes = ⌈(bytes : ℚ) / threshold.bytes.toRat⌉₊ := by
  rw [ceiling, ceilDiv_eq_ceil hpos, Dyadic.toRat, div_div_eq_mul_div]
  push_cast
  rfl

end Threshold

/-! ## 4. The threshold of an accountant -/

namespace Accountant

variable (accountant : Accountant)

/-- The exact occupancy at which the buffer spills: a share of its capacity. -/
def exactThreshold : ℚ := accountant.capacity.toNat * accountant.fraction.toRat

/-- How often `bytes` bytes fill the buffer up to the threshold, the last time
perhaps only in part. -/
def spills (bytes : Nat) : Nat := ⌈(bytes : ℚ) / accountant.exactThreshold⌉₊

theorem fraction_range :
    accountant.fraction.isFinite ∧ 0 < accountant.fraction.toRat ∧
      accountant.fraction.toRat ≤ 1 :=
  accountant.fraction.isPositiveShare_iff.1 accountant.fraction_share

theorem exactThreshold_pos : 0 < accountant.exactThreshold := by
  obtain ⟨-, hpos, -⟩ := accountant.fraction_range
  exact mul_pos (Nat.cast_pos.2 accountant.capacity_pos) hpos

theorem exactThreshold_le_capacity : accountant.exactThreshold ≤ accountant.capacity.toNat := by
  obtain ⟨-, -, hle⟩ := accountant.fraction_range
  exact mul_le_of_le_one_right (Nat.cast_nonneg _) hle

theorem toRat_threshold : accountant.threshold.bytes.toRat = accountant.exactThreshold := by
  obtain ⟨-, hpos, -⟩ := accountant.fraction_range
  have hsign := Binary64.isNegative_of_toRat_pos hpos
  rw [threshold, Threshold.ofBuffer, Dyadic.toRat_scale, Binary64.toRat_dyadic hsign,
    exactThreshold]

theorem numerator_threshold_pos : 0 < accountant.threshold.bytes.numerator := by
  apply Dyadic.numerator_pos
  rw [toRat_threshold]
  exact accountant.exactThreshold_pos

theorem numerator_threshold_lt : accountant.threshold.bytes.numerator < 2 ^ 117 :=
  mul_lt_two_pow accountant.capacity.toNat_lt
    (Binary64.numerator_dyadic_lt accountant.fraction_share)

/-- The long division counts the spills, unless there are too many of them to be
reported. -/
theorem spillsFor_threshold (bytes : Nat) :
    accountant.threshold.spillsFor bytes = countWithin? (accountant.spills bytes) := by
  have hpos := accountant.numerator_threshold_pos
  rw [Threshold.spillsFor_eq hpos, Threshold.ceiling_eq_ceil hpos, toRat_threshold, spills]

/-- `count` fillings of the buffer are enough exactly if they hold the bytes. -/
theorem spills_le_iff {bytes count : Nat} :
    accountant.spills bytes ≤ count ↔ (bytes : ℚ) ≤ count * accountant.exactThreshold := by
  rw [spills, Nat.ceil_le, div_le_iff₀ accountant.exactThreshold_pos]

/-- A buffer that spills with every 240 bytes: half of it may fill up. -/
def halfBuffer : Accountant where
  capacity := 480
  fraction := ⟨0x3fe0000000000000⟩
  partitions := 1
  capacity_pos := by decide
  fraction_share := by decide
  partitions_pos := by decide

theorem exactThreshold_halfBuffer : halfBuffer.exactThreshold = 240 := by
  have hcapacity : halfBuffer.capacity.toNat = 480 := rfl
  rw [exactThreshold, hcapacity, halfBuffer, Binary64.toRat_half]
  norm_num

end Accountant

end ExternalSort.Spill
