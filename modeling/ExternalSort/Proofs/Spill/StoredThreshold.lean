import Mathlib.NumberTheory.Padics.PadicVal.Basic
import ExternalSort.Proofs.Spill.Prediction

/-!
# The stored threshold is exact

A share is split into a numerator and a shift once, when an accountant is made, and the
threshold is this fraction times the capacity. The fraction is in lowest terms: a share is not
above one, so nothing is left to shift only where the numerator is one
(`Dyadic.numerator_odd`).

The fields are cut out of the word by masks and shifts on a machine. `Binary64.dyadic?` does
the same and gives up where the exponent is too large for a shift to the right.

Results:
1. `Binary64.dyadic?_eq`: cutting up a word gives the fraction, unless the number is very
   large.
2. `Accountant.create_threshold_exact`: who gets an accountant, what the first fault is, and
   which threshold is kept.
-/

namespace ExternalSort

/-! ## 1. Lowest terms -/

namespace Dyadic

/-- Reducing takes as many zeros from the end of the numerator as the shift allows. -/
theorem reduce_eq_div {numerator : Nat} (hpos : 0 < numerator) (shift : Nat) :
    let zeros := min (padicValNat 2 numerator) shift
    reduce numerator shift = ⟨numerator / 2 ^ zeros, shift - zeros⟩ := by
  induction shift generalizing numerator with
  | zero => simp [reduce]
  | succ shift ih =>
    intro zeros
    rw [reduce]
    split
    · next heven =>
      have hdvd : 2 ∣ numerator := Nat.dvd_of_mod_eq_zero heven
      have hvaluation := padicValNat.div hdvd
      have hsome : padicValNat 2 numerator ≠ 0 := (dvd_iff_padicValNat_ne_zero hpos.ne').1 hdvd
      have hzeros : zeros = min (padicValNat 2 (numerator / 2)) shift + 1 := by omega
      rw [ih (by omega), hzeros, pow_succ', Nat.div_div_eq_div_mul, Nat.add_sub_add_right]
    · next hodd =>
      have hnone : padicValNat 2 numerator = 0 :=
        padicValNat.eq_zero_of_not_dvd (mt Nat.mod_eq_zero_of_dvd hodd)
      have hzeros : zeros = 0 := by omega
      rw [hzeros, pow_zero, Nat.div_one, Nat.sub_zero]

/-- A fraction in lowest terms that is above zero and not above one has an odd numerator. -/
theorem numerator_odd {x : Dyadic} (hlowest : x.numerator % 2 = 1 ∨ x.shift = 0)
    (hpos : 0 < x.toRat) (hle : x.toRat ≤ 1) : x.numerator % 2 = 1 := by
  rcases hlowest with hodd | hwhole
  · exact hodd
  · have hsome := numerator_pos hpos
    rw [toRat, hwhole, pow_zero, div_one, Nat.cast_le_one] at hle
    omega

end Dyadic

/-! ## 2. Words -/

namespace Binary64

variable {x : Binary64}

/-- The shift that goes with an exponent field, if it is not negative. -/
def shift? (exponent : Nat) : Option Nat :=
  if exponent = 0 then some 1074 else Spill.difference? 1075 exponent

/-- `dyadic` as it is cut out of the word. -/
def dyadic? (x : Binary64) : Option Dyadic := do
  let exponent := (x.bits >>> 52 &&& 0x7ff).toNat
  let fraction := (x.bits &&& 0xfffffffffffff).toNat
  let mantissa := if exponent = 0 then fraction else fraction ||| 2 ^ 52
  let shift ← shift? exponent
  let zeros := min (padicValNat 2 mantissa) shift
  return ⟨mantissa >>> zeros, shift - zeros⟩

theorem toNat_exponentBits (x : Binary64) :
    (x.bits >>> 52 &&& 0x7ff).toNat = x.exponentField := by
  have hmask : (0x7ff : UInt64).toNat = 2 ^ 11 - 1 := rfl
  have hshift : (52 : UInt64).toNat % 64 = 52 := rfl
  rw [UInt64.toNat_and, UInt64.toNat_shiftRight, hmask, hshift, Nat.and_two_pow_sub_one_eq_mod,
    Nat.shiftRight_eq_div_pow, exponentField, magnitude]
  omega

theorem toNat_fractionBits (x : Binary64) :
    (x.bits &&& 0xfffffffffffff).toNat = x.fractionField := by
  have hmask : (0xfffffffffffff : UInt64).toNat = 2 ^ 52 - 1 := rfl
  rw [UInt64.toNat_and, hmask, Nat.and_two_pow_sub_one_eq_mod, fractionField, magnitude]
  omega

/-- The leading one stands above the bits of the fraction. -/
theorem mantissa_eq_or (h : x.exponentField ≠ 0) : x.mantissa = x.fractionField ||| 2 ^ 52 := by
  rw [Nat.or_two_pow_eq_add_of_lt x.fractionField_lt, mantissa, if_neg h, Nat.add_comm]

theorem shift?_eq (h : x.exponentField ≤ 1075) :
    shift? x.exponentField = some (unitExponent + 1 - x.scale) := by
  unfold shift? scale
  split
  · next hzero =>
    rw [hzero]
    rfl
  · next hsome =>
    rw [Spill.difference?_of_le h, max_eq_left (Nat.one_le_iff_ne_zero.2 hsome)]
    rfl

/-- The fields of a word give its fraction, if the exponent leaves something to shift. -/
theorem dyadic?_eq (hpos : 0 < x.mantissa) (hexponent : x.exponentField ≤ 1075) :
    x.dyadic? = some x.dyadic := by
  have hscale : x.scale - (unitExponent + 1) = 0 := by
    unfold scale unitExponent
    omega
  have hmantissa : (if x.exponentField = 0 then x.fractionField
      else x.fractionField ||| 2 ^ 52) = x.mantissa := by
    split
    · next hzero => rw [mantissa, if_pos hzero]
    · next hsome => exact (mantissa_eq_or hsome).symm
  have hreduce := Dyadic.reduce_eq_div hpos (unitExponent + 1 - x.scale)
  simp only [dyadic?, toNat_exponentBits, toNat_fractionBits, hmantissa, shift?_eq hexponent,
    Nat.shiftRight_eq_div_pow, Option.bind_eq_bind, Option.bind_some, Option.pure_def]
  rw [dyadic, hscale, pow_zero, mul_one, hreduce]

/-- A share has a mantissa, and an exponent that leaves something to shift. -/
theorem fields_of_isPositiveShare (h : x.isPositiveShare) :
    0 < x.mantissa ∧ x.exponentField ≤ 1023 := by
  obtain ⟨-, hpos, hle⟩ := x.isPositiveShare_iff.1 h
  have hsign := isNegative_of_toRat_pos hpos
  have hscale : (0 : ℚ) < 2 ^ unitExponent := by positivity
  rw [toRat_of_nonneg hsign] at hpos hle
  rw [div_pos_iff_of_pos_right hscale, Nat.cast_pos, units] at hpos
  rw [div_le_one hscale] at hle
  have hmagnitude : x.magnitude ≤ 1023 * 2 ^ 52 := (units_le_iff x).1 (by exact_mod_cast hle)
  have hfields := x.magnitude_eq
  exact ⟨Nat.pos_of_mul_pos_right hpos, by omega⟩

/-- What a share is split into: the share itself in lowest terms, with few bits. -/
structure IsSplit (x : Binary64) (split : Dyadic) : Prop where
  dyadic?_eq : x.dyadic? = some split
  numerator_odd : split.numerator % 2 = 1
  numerator_lt : split.numerator < 2 ^ 53
  shift_le : split.shift ≤ 1074
  toRat_eq : split.toRat = x.toRat

theorem isSplit_dyadic (h : x.isPositiveShare) : x.IsSplit x.dyadic := by
  obtain ⟨-, hpos, hle⟩ := x.isPositiveShare_iff.1 h
  obtain ⟨hmantissa, hexponent⟩ := fields_of_isPositiveShare h
  have hvalue : x.dyadic.toRat = x.toRat := toRat_dyadic (isNegative_of_toRat_pos hpos)
  have hshift : x.dyadic.shift ≤ unitExponent + 1 - x.scale := Dyadic.shift_reduce_le _ _
  have hscale : 1 ≤ x.scale := Nat.le_max_right _ _
  exact
    { dyadic?_eq := dyadic?_eq hmantissa (by omega)
      numerator_odd := Dyadic.numerator_odd (Dyadic.reduce_lowest _ _)
        (hvalue ▸ hpos) (hvalue ▸ hle)
      numerator_lt := numerator_dyadic_lt h
      shift_le := by
        unfold unitExponent at hshift
        omega
      toRat_eq := hvalue }

end Binary64

/-! ## 3. Accountants -/

namespace Spill.Accountant

/-- The first fault of a buffer that no accountant is made for. -/
theorem create_of_fault (capacity : UInt64) (fraction : Binary64) (partitions : UInt32) :
    let isShare := fraction.isFinite ∧ 0 < fraction.toRat ∧ fraction.toRat ≤ 1
    (capacity.toNat = 0 → create capacity fraction partitions = .error .emptyBuffer) ∧
    (0 < capacity.toNat → ¬isShare →
      create capacity fraction partitions = .error (.fractionOutOfRange fraction)) ∧
    (0 < capacity.toNat → isShare → partitions.toNat = 0 →
      create capacity fraction partitions = .error .noPartitions) := by
  intro isShare
  have hshare : fraction.isPositiveShare ↔ isShare := fraction.isPositiveShare_iff
  refine ⟨?_, ?_, ?_⟩
  · intro hempty
    exact dif_pos hempty
  · intro hcapacity hfraction
    rw [← hshare, Bool.not_eq_true] at hfraction
    exact (dif_neg hcapacity.ne').trans (dif_pos hfraction)
  · intro hcapacity hfraction hpartitions
    rw [← hshare] at hfraction
    exact (dif_neg hcapacity.ne').trans ((dif_neg (by simp [hfraction])).trans
      (dif_pos hpartitions))

/-- An accountant is made for a capacity above zero, a share of it that is a number above zero
and not above one, and at least one partition. The first of these that fails is the field that
is named. The share is split exactly and into lowest terms, and the threshold that is kept is
the split share times the capacity. -/
theorem create_threshold_exact (capacity : UInt64) (fraction : Binary64) (partitions : UInt32) :
    let outcome := create capacity fraction partitions
    let isShare := fraction.isFinite ∧ 0 < fraction.toRat ∧ fraction.toRat ≤ 1
    ((∃ accountant, outcome = .ok accountant) ↔
      0 < capacity.toNat ∧ isShare ∧ 1 ≤ partitions.toNat) ∧
    (∀ error, outcome = .error error → error.field =
      if capacity.toNat = 0 then "buffer_capacity_bytes"
      else if ¬isShare then "spill_threshold_fraction"
      else "num_partitions") ∧
    ∀ accountant, outcome = .ok accountant →
      let threshold := accountant.threshold.bytes
      fraction.IsSplit fraction.dyadic ∧
      threshold.shift = fraction.dyadic.shift ∧
      (threshold.numerator / 2 ^ threshold.shift : ℚ) = capacity.toNat * fraction.toRat ∧
      1 ≤ threshold.numerator ∧ threshold.numerator < 2 ^ 117 := by
  intro outcome isShare
  obtain ⟨hempty, hfraction, hpartitions⟩ := create_of_fault capacity fraction partitions
  refine ⟨create_isOk_iff, ?_, ?_⟩
  · intro error herror
    split
    · next hzero =>
      cases (hempty hzero).symm.trans herror
      rfl
    next hcapacity =>
    have hpos := Nat.pos_of_ne_zero hcapacity
    split
    · next hnone =>
      cases (hfraction hpos hnone).symm.trans herror
      rfl
    next hshare =>
    rcases Nat.eq_zero_or_pos partitions.toNat with hzero | hsome
    · cases (hpartitions hpos (not_not.1 hshare) hzero).symm.trans herror
      rfl
    · obtain ⟨accountant, hmade⟩ := create_isOk_iff.2 ⟨hpos, not_not.1 hshare, hsome⟩
      cases hmade.symm.trans herror
  · intro accountant hmade threshold
    obtain ⟨rfl, rfl, rfl⟩ := create_eq_ok_iff.1 hmade
    exact ⟨Binary64.isSplit_dyadic accountant.fraction_share, rfl, accountant.toRat_threshold,
      accountant.numerator_threshold_pos, accountant.numerator_threshold_lt⟩

/-- The least share is one over `2 ^ 1074`, and the largest buffer has a threshold for it. What
is no number is named as the fault, also where there are no partitions either. -/
theorem create_threshold_exact_leastShare :
    (∃ accountant, create 18446744073709551615 ⟨1⟩ 1 = .ok accountant ∧
      Binary64.IsSplit ⟨1⟩ ⟨1, 1074⟩ ∧ accountant.threshold.bytes.shift = 1074 ∧
      accountant.threshold.bytes.numerator < 2 ^ 117) ∧
    ∃ error, create 480 .nan 0 = .error error ∧ error.field = "spill_threshold_fraction" := by
  have hshare : Binary64.isPositiveShare ⟨1⟩ := by decide
  have hsplit : Binary64.dyadic ⟨1⟩ = ⟨1, 1074⟩ := by decide
  have hnan : Binary64.isFinite .nan = false := by decide
  obtain ⟨hmade, -, hthreshold⟩ := create_threshold_exact 18446744073709551615 ⟨1⟩ 1
  obtain ⟨-, hfield, -⟩ := create_threshold_exact 480 .nan 0
  obtain ⟨accountant, haccountant⟩ :=
    hmade.2 ⟨by decide, (Binary64.isPositiveShare_iff _).1 hshare, by decide⟩
  obtain ⟨hexact, hshift, -, -, hlt⟩ := hthreshold accountant haccountant
  rw [hsplit] at hexact hshift
  refine ⟨⟨accountant, haccountant, hexact, hshift, hlt⟩, _, rfl, ?_⟩
  rw [hfield _ rfl, if_neg (by decide), if_pos]
  rintro ⟨hfinite, -⟩
  rw [hnan] at hfinite
  cases hfinite

end Spill.Accountant

end ExternalSort
