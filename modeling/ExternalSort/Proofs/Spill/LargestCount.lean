import Mathlib.Algebra.Order.Floor.Semifield
import ExternalSort.Proofs.Spill.Inverse

/-!
# Inverse sizing at the largest count

`mostRecords` is the largest number of records that makes no more than some spills. It may be
larger than what can be reported, and inverse sizing is refused then.

The search for it takes the largest count as its upper end, where the records must not fit.
So it is refused one number earlier than it has to be: `mostRecords` is found below the
largest count only (`recordsFor_eq_of_lt`), and where it is the largest count itself, it is
refused as if it could not be reported (`recordsFor_refuses_largestCount`).
-/

namespace ExternalSort.Spill.Accountant

variable {accountant : Accountant} {size : RecordSize} {spills : UInt64}

/-- The largest number of records that makes at most `spills` spills. -/
def mostRecords (accountant : Accountant) (size : RecordSize) (spills : Nat) : Nat :=
  ⌊spills * accountant.exactThreshold / size.bufferFootprint⌋₊

theorem le_mostRecords_iff (hpos : 0 < size.bufferFootprint) {spills records : Nat} :
    records ≤ accountant.mostRecords size spills ↔
      (records * size.bufferFootprint : ℚ) ≤ spills * accountant.exactThreshold := by
  have hfootprint : (0 : ℚ) < size.bufferFootprint := Nat.cast_pos.2 hpos
  have hthreshold := accountant.exactThreshold_pos
  rw [mostRecords, Nat.le_floor_iff (by positivity), le_div_iff₀ hfootprint]

theorem recordsFor_eq_of_le (hpos : 0 < size.bufferFootprint)
    (hrecord : (size.bufferFootprint : ℚ) ≤ accountant.exactThreshold)
    (hlarge : largestCount ≤ accountant.mostRecords size spills.toNat) :
    accountant.recordsFor spills size = .error (.tooManyRecords spills) :=
  recordsFor_of_le hrecord ((le_mostRecords_iff hpos).1 hlarge)

theorem recordsFor_eq_of_lt (hpos : 0 < size.bufferFootprint)
    (hrecord : (size.bufferFootprint : ℚ) ≤ accountant.exactThreshold)
    (hsmall : accountant.mostRecords size spills.toNat < largestCount) :
    accountant.recordsFor spills size = .ok (accountant.mostRecords size spills.toNat) := by
  rw [← Nat.not_le, le_mostRecords_iff hpos, not_le] at hsmall
  obtain ⟨records, hanswer, -, hboundary⟩ := recordsFor_isBoundary hrecord hsmall
  rw [hanswer, hboundary.eq_floor, mostRecords]

/-- A buffer of the largest capacity that spills when it is full. -/
def largestBuffer : Accountant :=
  { halfBuffer with
    capacity := 18446744073709551615
    fraction := .one
    capacity_pos := by decide
    fraction_share := by decide }

theorem exactThreshold_largestBuffer : largestBuffer.exactThreshold = largestCount := by
  have hcapacity : largestBuffer.capacity.toNat = largestCount := rfl
  have hfraction : largestBuffer.fraction.toRat = 1 := Binary64.toRat_one
  rw [exactThreshold, hcapacity, hfraction, mul_one]

theorem mostRecords_largestBuffer (size : RecordSize) (spills : Nat) :
    largestBuffer.mostRecords size spills = spills * largestCount / size.bufferFootprint := by
  rw [mostRecords, exactThreshold_largestBuffer, ← Nat.cast_mul, Nat.floor_div_eq_div]

/-- The records that fit are too many to be reported exactly if they reach the largest count.
Below it they are found. -/
theorem recordsFor_tooManyRecords_iff (accountant : Accountant) (size : RecordSize)
    (desired : UInt64) (hpos : 0 < size.bufferFootprint)
    (hrecord : (size.bufferFootprint : ℚ)
      ≤ accountant.capacity.toNat * accountant.fraction.toRat) :
    let threshold : ℚ := accountant.capacity.toNat * accountant.fraction.toRat
    let most := ⌊desired.toNat * threshold / size.bufferFootprint⌋₊
    let answer := accountant.recordsFor desired size
    (answer = .error (.tooManyRecords desired) ↔ 2 ^ 64 - 1 ≤ most) ∧
      (most < 2 ^ 64 - 1 → answer = .ok most) := by
  intro threshold most answer
  have hsmall : most < 2 ^ 64 - 1 → answer = .ok most := recordsFor_eq_of_lt hpos hrecord
  refine ⟨?_, hsmall⟩
  constructor
  · intro herror
    by_contra hlt
    cases herror.symm.trans (hsmall (Nat.not_le.1 hlt))
  · intro hlarge
    exact recordsFor_eq_of_le hpos hrecord hlarge

/-- Seventeen buffers hold a number of empty records that can be reported. With eighteen
buffers, the number is the largest count. -/
theorem recordsFor_tooManyRecords_iff_emptyRecord :
    let size : RecordSize := ⟨1, 1, 0, 0, 18, 2⟩
    largestBuffer.recordsFor 17 size = .ok (17 * (2 ^ 64 - 1) / 18) ∧
      largestBuffer.recordsFor 18 size = .error (.tooManyRecords 18) := by
  intro size
  have hrecord : (size.bufferFootprint : ℚ)
      ≤ largestBuffer.capacity.toNat * largestBuffer.fraction.toRat := by
    rw [← exactThreshold, exactThreshold_largestBuffer]
    exact_mod_cast (by decide : 18 ≤ largestCount)
  have hmost (spills : Nat) : ⌊(spills * (largestBuffer.capacity.toNat
      * largestBuffer.fraction.toRat) / size.bufferFootprint : ℚ)⌋₊ = spills * (2 ^ 64 - 1) / 18 :=
    mostRecords_largestBuffer size spills
  obtain ⟨-, hsmall⟩ := recordsFor_tooManyRecords_iff largestBuffer size 17 (by decide) hrecord
  obtain ⟨hlarge, -⟩ := recordsFor_tooManyRecords_iff largestBuffer size 18 (by decide) hrecord
  rw [hmost] at hsmall hlarge
  exact ⟨hsmall (by decide), hlarge.2 (by decide)⟩

/-- The largest count can be reported, but inverse sizing refuses it as too large. -/
theorem recordsFor_refuses_largestCount :
    let size : RecordSize := ⟨1, 1, 0, 0, 18, 2⟩
    let threshold : ℚ := largestBuffer.capacity.toNat * largestBuffer.fraction.toRat
    let most := ⌊(18 : UInt64).toNat * threshold / size.bufferFootprint⌋₊
    let refused := largestBuffer.recordsFor 18 size = .error (.tooManyRecords 18)
    RecordSize.ofLengths 0 0 = .ok size ∧ 0 < size.bufferFootprint ∧
      (size.bufferFootprint : ℚ) ≤ threshold ∧ most = 2 ^ 64 - 1 ∧ refused ∧
      ¬(refused ↔ 2 ^ 64 - 1 < most) := by
  intro size threshold most refused
  have hthreshold : threshold = largestCount := exactThreshold_largestBuffer
  have hquotient : most = 18 * largestCount / 18 := mostRecords_largestBuffer size 18
  have hmost : most = 2 ^ 64 - 1 := hquotient.trans (Nat.mul_div_cancel_left _ (by decide))
  have hrecord : (size.bufferFootprint : ℚ) ≤ threshold := by
    rw [hthreshold]
    exact_mod_cast (by decide : 18 ≤ largestCount)
  have hrefused : refused := recordsFor_eq_of_le (by decide) hrecord hmost.ge
  refine ⟨rfl, by decide, hrecord, hmost, hrefused, ?_⟩
  rw [hmost]
  exact fun h => Nat.lt_irrefl _ (h.1 hrefused)

end ExternalSort.Spill.Accountant
