import ExternalSort.Proofs.Spill.Words

/-!
# The long division is exact

The dividend of the long division, the bytes times a power of two, may have over a thousand
bits and is never formed. What carries the loop instead is its quotient and its remainder:
after each round they are those of the dividend doubled so far
(`Division.doubleTimes_eq_some`), so the remainder stays below the divisor. A run is cut at
any round by `Division.doubleTimes_add`.

`Threshold.spillsFor_exact`: the long division rounds up the exact quotient for every
threshold whose numerator has at most 117 bits, on every number of bytes of a 128-bit word,
and nothing on the way needs more than such a word.
-/

namespace ExternalSort.Spill

namespace Division

variable {divisor : Nat} {state : Division}

/-- A run goes through the divisions that shorter runs end with. -/
theorem doubleTimes_add (divisor rounds more : Nat) (state : Division) :
    state.doubleTimes divisor (rounds + more)
      = (state.doubleTimes divisor rounds).bind (doubleTimes divisor more) := by
  induction rounds generalizing state with
  | zero => rw [Nat.zero_add, doubleTimes, Option.bind_some]
  | succ rounds ih =>
    rw [Nat.succ_add, doubleTimes, doubleTimes]
    split
    · rfl
    · exact ih (state.double divisor)

/-- What holds after some rounds: the division is that of the dividend doubled so often, and
the rest of the run goes on from it. -/
theorem stage_of_doubleTimes (hpos : 0 < divisor) {dividend rounds more : Nat}
    (h : (ofDividend divisor dividend).doubleTimes divisor rounds = some state) :
    state.remainder < divisor ∧
      state.quotient * divisor + state.remainder = dividend * 2 ^ rounds ∧
      (ofDividend divisor dividend).doubleTimes divisor (rounds + more)
        = state.doubleTimes divisor more := by
  have hrest : (ofDividend divisor dividend).doubleTimes divisor (rounds + more)
      = state.doubleTimes divisor more := by
    rw [doubleTimes_add, h, Option.bind_some]
  obtain rfl := doubleTimes_eq_some hpos h
  exact ⟨Nat.mod_lt _ hpos, Nat.div_add_mod' _ _, hrest⟩

end Division

namespace Threshold

/-- The long division gives the exact quotient rounded up if it is a count of 64 bits, and
nothing otherwise. After each round the remainder is below the divisor, and a round that is
made needs no more than 128 bits. The same holds of the whole division: done in words, it
comes to the same. -/
theorem spillsFor_exact (threshold : Threshold) (bytes : Nat)
    (hpos : 1 ≤ threshold.bytes.numerator) (hlt : threshold.bytes.numerator < 2 ^ 117)
    (hword : bytes < 2 ^ 128) :
    let divisor := threshold.bytes.numerator
    let shift := threshold.bytes.shift
    let count : Nat := ⌈(bytes * 2 ^ shift : ℚ) / divisor⌉₊
    let start := Division.ofDividend divisor bytes
    (count ≤ 2 ^ 64 - 1 → threshold.spillsFor bytes = some count) ∧
    (2 ^ 64 - 1 < count → threshold.spillsFor bytes = none) ∧
    (∀ rounds more state, rounds + more = shift →
      start.doubleTimes divisor rounds = some state →
        state.remainder < divisor ∧
        state.quotient * divisor + state.remainder = bytes * 2 ^ rounds ∧
        start.doubleTimes divisor shift = state.doubleTimes divisor more ∧
        (state.quotient ≤ 2 ^ 64 - 1 →
          2 * state.quotient + 1 < 2 ^ 128 ∧ 2 * state.remainder < 2 ^ 128)) ∧
    threshold.spillsFor? bytes = some (threshold.spillsFor bytes) := by
  intro divisor shift count start
  have hcount : threshold.spillsFor bytes = countWithin? count := by
    rw [spillsFor_eq hpos, ceiling_eq_ceil hpos, Dyadic.toRat, div_div_eq_mul_div]
  refine ⟨?_, ?_, ?_, spillsFor?_eq hpos (by omega) hword⟩
  · intro hsmall
    exact hcount.trans (if_pos hsmall)
  · intro hlarge
    exact hcount.trans (if_neg (Nat.not_le.2 hlarge))
  · intro rounds more state hrounds hstate
    obtain ⟨hremainder, hequation, hrest⟩ := Division.stage_of_doubleTimes hpos hstate
    rw [hrounds] at hrest
    refine ⟨hremainder, hequation, hrest, ?_⟩
    intro hquotient
    have hdivisor : divisor < 2 ^ 117 := hlt
    omega

/-- Two bytes short of three times `2 ^ 63` fill a threshold of one and a half bytes the largest
number of times that can be reported. One more byte is too much. -/
theorem spillsFor_exact_oneAndAHalf :
    spillsFor ⟨⟨3, 1⟩⟩ 27670116110564327422 = some 18446744073709551615 ∧
      spillsFor ⟨⟨3, 1⟩⟩ 27670116110564327423 = none ∧
      spillsFor? ⟨⟨3, 1⟩⟩ 27670116110564327423 = some none := by
  have hlast : ⌈((27670116110564327422 : Nat) * 2 ^ 1 : ℚ) / (3 : Nat)⌉₊
      = 18446744073709551615 := by
    rw [Nat.ceil_eq_iff (by decide)]
    norm_num
  have hnext : ⌈((27670116110564327423 : Nat) * 2 ^ 1 : ℚ) / (3 : Nat)⌉₊
      = 18446744073709551616 := by
    rw [Nat.ceil_eq_iff (by decide)]
    norm_num
  obtain ⟨hfits, -, -, -⟩ :=
    spillsFor_exact ⟨⟨3, 1⟩⟩ 27670116110564327422 (by decide) (by decide) (by decide)
  obtain ⟨-, hexceeds, -, hwords⟩ :=
    spillsFor_exact ⟨⟨3, 1⟩⟩ 27670116110564327423 (by decide) (by decide) (by decide)
  simp only [hlast] at hfits
  simp only [hnext] at hexceeds
  have hnone := hexceeds (by decide)
  rw [hnone] at hwords
  exact ⟨hfits (by decide), hnone, hwords⟩

end Threshold

end ExternalSort.Spill
