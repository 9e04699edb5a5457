import Mathlib.Data.Rat.Floor
import Mathlib.Tactic.Linarith
import Mathlib.Tactic.NormNum
import Mathlib.Tactic.Positivity
import Mathlib.Tactic.Ring
import Mathlib.Tactic.Tauto
import ExternalSort.Binary64.Basic
import ExternalSort.CeilDiv

/-!
# Exact values

Quotients that are rounded up, dyadic fractions and double-precision numbers as
rational numbers. Spill counts are decided by such values, so statements about
them are made in rational arithmetic.

Results:
1. `ceilDiv_eq_ceil`: the quotient of naturals is the ceiling of the fraction.
2. `Dyadic.toRat_scale`: a scaled fraction is a multiple.
3. `Binary64.toRat_dyadic`: a number that is not negative is its own fraction in
   lowest terms; `Binary64.isPositiveShare_iff`: a share is a number above zero
   and not above one.
-/

namespace ExternalSort

/-! ## 1. Natural numbers -/

theorem ceilDiv_eq_ceil {a b : Nat} (hb : 0 < b) : ceilDiv a b = ⌈(a : ℚ) / b⌉₊ := by
  apply eq_of_forall_ge_iff
  intro count
  rw [ceilDiv_le_iff hb, Nat.ceil_le, div_le_iff₀ (Nat.cast_pos.2 hb)]
  exact_mod_cast Iff.rfl

theorem mul_lt_two_pow {a b m n : Nat} (ha : a < 2 ^ m) (hb : b < 2 ^ n) :
    a * b < 2 ^ (m + n) := by
  rw [pow_add]
  exact Nat.mul_lt_mul'' ha hb

/-! ## 2. Dyadic fractions -/

namespace Dyadic

/-- The value of a fraction. -/
def toRat (x : Dyadic) : ℚ := x.numerator / 2 ^ x.shift

theorem toRat_scale (factor : Nat) (x : Dyadic) : (scale factor x).toRat = factor * x.toRat := by
  simp only [toRat, scale, Nat.cast_mul, mul_div_assoc]

theorem numerator_pos {x : Dyadic} (h : 0 < x.toRat) : 0 < x.numerator := by
  rcases Nat.eq_zero_or_pos x.numerator with hzero | hpos
  · simp [toRat, hzero] at h
  · exact hpos

theorem numerator_reduce_le (numerator shift : Nat) :
    (reduce numerator shift).numerator ≤ numerator := by
  have hvalue := numerator_reduce numerator shift
  calc (reduce numerator shift).numerator
      ≤ (reduce numerator shift).numerator * 2 ^ (shift - (reduce numerator shift).shift) :=
        Nat.le_mul_of_pos_right _ (Nat.two_pow_pos _)
    _ = numerator := hvalue

end Dyadic

/-! ## 3. Double-precision numbers -/

namespace Binary64

/-- The word stands for a number, and not for an infinity. -/
def isFinite (x : Binary64) : Bool := x.exponentField != 2047

/-- The number that the fields of a finite word stand for. Subnormal numbers have
no leading one. -/
def toRat (x : Binary64) : ℚ :=
  let size : ℚ :=
    if x.exponentField = 0 then x.fractionField * 2 ^ (-1074 : ℤ)
    else (2 ^ 52 + x.fractionField) * 2 ^ ((x.exponentField : ℤ) - 1075)
  if x.isNegative then -size else size

/-- A number is a multiple of the least positive one. -/
theorem toRat_eq (x : Binary64) :
    x.toRat = if x.isNegative then -(x.units / 2 ^ unitExponent : ℚ)
      else x.units / 2 ^ unitExponent := by
  have hsize : (if x.exponentField = 0 then (x.fractionField : ℚ) * 2 ^ (-1074 : ℤ)
      else (2 ^ 52 + x.fractionField) * 2 ^ ((x.exponentField : ℤ) - 1075))
        = x.units / 2 ^ unitExponent := by
    unfold units mantissa scale unitExponent
    split
    · next hzero =>
      have hexponent : (-1074 : ℤ) = -(1074 : ℕ) := rfl
      rw [hzero, max_eq_right (Nat.zero_le 1), Nat.sub_self, pow_zero, mul_one, hexponent,
        zpow_neg, zpow_natCast, div_eq_mul_inv]
    · next hpos =>
      have hone : 1 ≤ x.exponentField := Nat.one_le_iff_ne_zero.2 hpos
      have hexponent : (x.exponentField : ℤ) - 1075 = (x.exponentField - 1 : ℕ) - (1074 : ℕ) := by
        omega
      rw [max_eq_left hone, hexponent, zpow_sub₀ two_ne_zero, zpow_natCast, zpow_natCast]
      rw [← mul_div_assoc]
      congr 1
      push_cast
      norm_num
  unfold toRat
  simp only [hsize]

theorem toRat_of_nonneg {x : Binary64} (h : x.isNegative = false) :
    x.toRat = x.units / 2 ^ unitExponent := by
  rw [toRat_eq, h, if_neg Bool.false_ne_true]

theorem toRat_half : toRat ⟨0x3fe0000000000000⟩ = 1 / 2 := by
  have hsign : isNegative ⟨0x3fe0000000000000⟩ = false := by decide
  have hexponent : exponentField ⟨0x3fe0000000000000⟩ = 1022 := by decide
  have hfraction : fractionField ⟨0x3fe0000000000000⟩ = 0 := by decide
  rw [toRat, hsign, hexponent, hfraction]
  norm_num

theorem isNegative_of_toRat_pos {x : Binary64} (h : 0 < x.toRat) : x.isNegative = false := by
  cases hsign : x.isNegative
  · rfl
  · rw [toRat_eq, hsign, if_pos rfl] at h
    have hsize : (0 : ℚ) ≤ x.units / 2 ^ unitExponent := by positivity
    linarith

/-- A number that is not negative is its own fraction in lowest terms. -/
theorem toRat_dyadic {x : Binary64} (h : x.isNegative = false) : x.dyadic.toRat = x.toRat := by
  rw [toRat_of_nonneg h, Dyadic.toRat, div_eq_div_iff (by positivity) (by positivity)]
  exact_mod_cast x.dyadic_eq

theorem fractionField_lt (x : Binary64) : x.fractionField < 2 ^ 52 :=
  Nat.mod_lt _ (Nat.two_pow_pos 52)

theorem magnitude_eq (x : Binary64) :
    x.magnitude = x.exponentField * 2 ^ 52 + x.fractionField :=
  (Nat.div_add_mod' _ _).symm

theorem mantissa_lt (x : Binary64) : x.mantissa < 2 ^ 53 := by
  have hlt := x.fractionField_lt
  unfold mantissa
  split <;> omega

/-- The exponent field alone bounds a number from above. -/
theorem units_lt (x : Binary64) : x.units < 2 ^ (52 + x.exponentField) := by
  have hfraction := x.fractionField_lt
  rw [Nat.pow_add, units, mantissa, scale]
  split
  · next hzero =>
    rw [hzero, Nat.max_eq_right (Nat.zero_le 1), Nat.sub_self, pow_zero, mul_one, mul_one]
    exact hfraction
  · next hpos =>
    obtain ⟨exponent, hexponent⟩ := Nat.exists_eq_succ_of_ne_zero hpos
    have hsum : 52 + (exponent + 1) = 53 + exponent := by omega
    have hdouble : 2 ^ 52 * 2 ^ (exponent + 1) = 2 ^ 53 * 2 ^ exponent := by
      rw [← Nat.pow_add, hsum, Nat.pow_add]
    rw [hexponent, Nat.max_eq_left (Nat.succ_pos _), Nat.succ_sub_one, hdouble]
    exact Nat.mul_lt_mul_of_pos_right (by omega) (Nat.two_pow_pos _)

/-- From below, the exponent bounds a number with a leading one. -/
theorem le_units {x : Binary64} {exponent : Nat} (h : x.exponentField = exponent + 1) :
    2 ^ (52 + exponent) ≤ x.units := by
  rw [Nat.pow_add, units, mantissa, scale, h, if_neg (Nat.succ_ne_zero _),
    Nat.max_eq_left (Nat.succ_pos _), Nat.succ_sub_one]
  exact Nat.mul_le_mul_right _ (Nat.le_add_right _ _)

/-- Numbers grow with their magnitudes. -/
theorem units_lt_units {x y : Binary64} (h : x.magnitude < y.magnitude) : x.units < y.units := by
  have hx := x.magnitude_eq
  have hy := y.magnitude_eq
  have hfraction := x.fractionField_lt
  rcases Nat.lt_trichotomy x.exponentField y.exponentField with hlt | heq | hgt
  · obtain ⟨exponent, hexponent⟩ : ∃ exponent, y.exponentField = exponent + 1 :=
      Nat.exists_eq_succ_of_ne_zero (by omega)
    calc x.units < 2 ^ (52 + x.exponentField) := x.units_lt
      _ ≤ 2 ^ (52 + exponent) := Nat.pow_le_pow_right two_pos (by omega)
      _ ≤ y.units := le_units hexponent
  · have hmantissa : x.mantissa < y.mantissa := by
      unfold mantissa
      split <;> split <;> omega
    rw [units, units, scale, scale, heq]
    exact Nat.mul_lt_mul_of_pos_right hmantissa (Nat.two_pow_pos _)
  · have hother := y.fractionField_lt
    omega

theorem units_le_units_iff (x y : Binary64) : x.units ≤ y.units ↔ x.magnitude ≤ y.magnitude := by
  constructor
  · intro h
    by_contra hlt
    exact absurd (units_lt_units (Nat.not_le.1 hlt)) (Nat.not_lt.2 h)
  · intro h
    rcases Nat.eq_or_lt_of_le h with heq | hlt
    · have hexponent : x.exponentField = y.exponentField := by
        rw [exponentField, heq, exponentField]
      have hfraction : x.fractionField = y.fractionField := by
        rw [fractionField, heq, fractionField]
      rw [units, units, mantissa, mantissa, scale, scale, hexponent, hfraction]
    · exact Nat.le_of_lt (units_lt_units hlt)

theorem units_one : one.units = 2 ^ unitExponent := by
  have hexponent : one.exponentField = 1023 := by decide
  have hfraction : one.fractionField = 0 := by decide
  rw [units, mantissa, scale, hexponent, hfraction, if_neg (by decide), add_zero, ← Nat.pow_add]
  exact congrArg (2 ^ ·) (by decide : 52 + (max 1023 1 - 1) = unitExponent)

theorem toRat_one : one.toRat = 1 := by
  have hsign : one.isNegative = false := by decide
  have hscale : (2 ^ unitExponent : ℚ) ≠ 0 := by positivity
  rw [toRat_of_nonneg hsign, units_one, Nat.cast_pow, Nat.cast_ofNat, div_self hscale]

/-- The numbers up to one have the magnitudes up to that of one. -/
theorem units_le_iff (x : Binary64) :
    x.units ≤ 2 ^ unitExponent ↔ x.magnitude ≤ 1023 * 2 ^ 52 := by
  have hone : one.magnitude = 1023 * 2 ^ 52 := by decide
  rw [← units_one, units_le_units_iff, hone]

theorem units_pos_iff (x : Binary64) : 0 < x.units ↔ 0 < x.magnitude := by
  have hmagnitude := x.magnitude_eq
  rw [units, Nat.mul_pos_iff_of_pos_right (Nat.two_pow_pos _), mantissa]
  split
  · next hzero =>
    rw [hmagnitude, hzero, Nat.zero_mul, Nat.zero_add]
  · next hpos => omega

theorem isPositiveShare_iff_place (x : Binary64) :
    x.isPositiveShare ↔ x.isNaN = false ∧ 0 < x.place ∧ x.place ≤ 1023 * 2 ^ 52 := by
  have hzero : (zero false).isNaN = false ∧ (zero false).place = 0 := by decide
  have hone : one.isNaN = false ∧ one.place = 1023 * 2 ^ 52 := by decide
  simp only [isPositiveShare, less, atMost, hzero, hone, Bool.and_eq_true, Bool.not_eq_true',
    decide_eq_true_eq]
  tauto

theorem isPositiveShare_iff (x : Binary64) :
    x.isPositiveShare ↔ x.isFinite ∧ 0 < x.toRat ∧ x.toRat ≤ 1 := by
  have hmagnitude := x.magnitude_eq
  have hfraction := x.fractionField_lt
  rw [isPositiveShare_iff_place, place, toRat_eq]
  split
  · have hsize : (0 : ℚ) ≤ x.units / 2 ^ unitExponent := by positivity
    refine iff_of_false ?_ ?_
    · rintro ⟨-, hpos, -⟩
      omega
    · rintro ⟨-, hpos, -⟩
      linarith
  · have hscale : (0 : ℚ) < 2 ^ unitExponent := by positivity
    have hpos : (0 : ℚ) < x.units ↔ 0 < x.magnitude := Nat.cast_pos.trans x.units_pos_iff
    have hle : (x.units : ℚ) ≤ 2 ^ unitExponent ↔ x.magnitude ≤ 1023 * 2 ^ 52 := by
      rw [← units_le_iff]
      exact_mod_cast Iff.rfl
    rw [div_pos_iff_of_pos_right hscale, div_le_one hscale, hpos, hle, isFinite, isNaN,
      infiniteMagnitude]
    simp only [bne_iff_ne, ne_eq, decide_eq_false_iff_not]
    omega

/-- The order of numbers that are not negative is the order of their words. -/
theorem toRat_le_toRat_iff {x y : Binary64} (hx : x.isNegative = false)
    (hy : y.isNegative = false) : x.toRat ≤ y.toRat ↔ x.magnitude ≤ y.magnitude := by
  have hscale : (0 : ℚ) < 2 ^ unitExponent := by positivity
  rw [toRat_of_nonneg hx, toRat_of_nonneg hy, div_le_div_iff_of_pos_right hscale, Nat.cast_le,
    units_le_units_iff]

theorem toRat_le_of_atMost {x y : Binary64} (hx : x.isPositiveShare) (hy : y.isPositiveShare)
    (h : x.atMost y) : x.toRat ≤ y.toRat := by
  obtain ⟨-, hxpos, -⟩ := x.isPositiveShare_iff.1 hx
  obtain ⟨-, hypos, -⟩ := y.isPositiveShare_iff.1 hy
  have hxsign := isNegative_of_toRat_pos hxpos
  have hysign := isNegative_of_toRat_pos hypos
  simp only [atMost, place, hxsign, hysign, Bool.false_eq_true, if_false, Nat.cast_le,
    Bool.and_eq_true, decide_eq_true_eq] at h
  exact (toRat_le_toRat_iff hxsign hysign).2 h.2

/-- A share in lowest terms has a numerator of at most 53 bits. -/
theorem numerator_dyadic_lt {x : Binary64} (h : x.isPositiveShare) :
    x.dyadic.numerator < 2 ^ 53 := by
  obtain ⟨-, hpos, hle⟩ := x.isPositiveShare_iff_place.1 h
  have hmagnitude := x.magnitude_eq
  have hsmall : x.magnitude ≤ 1023 * 2 ^ 52 := by
    unfold place at hpos hle
    by_cases hsign : x.isNegative
    · rw [if_pos hsign] at hpos
      omega
    · rw [if_neg hsign] at hle
      exact_mod_cast hle
  have hscale : x.scale - (unitExponent + 1) = 0 := by
    unfold scale unitExponent
    omega
  calc x.dyadic.numerator
      ≤ x.mantissa * 2 ^ (x.scale - (unitExponent + 1)) := Dyadic.numerator_reduce_le _ _
    _ = x.mantissa := by rw [hscale, pow_zero, mul_one]
    _ < 2 ^ 53 := x.mantissa_lt

end Binary64

end ExternalSort
