import ExternalSort.Power

/-!
# Dyadic fractions

A dyadic fraction is a natural number over a power of two. Every finite
non-negative binary floating-point number is one, and a product with a whole
number is one again, so such a product is kept without rounding.

`Dyadic.reduce` brings a fraction to lowest terms: its numerator is odd, or
nothing is left to shift (`reduce_lowest`), and its value is unchanged
(`numerator_reduce`).
-/

namespace ExternalSort

/-- The fraction `numerator / 2 ^ shift`. -/
structure Dyadic where
  numerator : Nat
  shift : Nat
  deriving DecidableEq, Repr

namespace Dyadic

/-- The fraction `numerator / 2 ^ shift` in lowest terms. -/
def reduce (numerator : Nat) : Nat → Dyadic
  | 0 => ⟨numerator, 0⟩
  | shift + 1 =>
    if numerator % 2 = 0 then reduce (numerator / 2) shift else ⟨numerator, shift + 1⟩

/-- A whole multiple of a fraction. -/
def scale (factor : Nat) (x : Dyadic) : Dyadic := ⟨factor * x.numerator, x.shift⟩

theorem shift_reduce_le (numerator shift : Nat) : (reduce numerator shift).shift ≤ shift := by
  induction shift generalizing numerator with
  | zero => exact Nat.le_refl 0
  | succ shift ih =>
    rw [reduce]
    split
    · exact Nat.le_succ_of_le (ih _)
    · exact Nat.le_refl _

/-- Reducing keeps the value: what is taken from the shift is taken from the
numerator. -/
theorem numerator_reduce (numerator shift : Nat) :
    (reduce numerator shift).numerator * 2 ^ (shift - (reduce numerator shift).shift)
      = numerator := by
  induction shift generalizing numerator with
  | zero => simp [reduce]
  | succ shift ih =>
    rw [reduce]
    split
    · next heven =>
      have hle := shift_reduce_le (numerator / 2) shift
      have hsub : shift + 1 - (reduce (numerator / 2) shift).shift
          = shift - (reduce (numerator / 2) shift).shift + 1 := by omega
      rw [hsub, Nat.pow_succ, ← Nat.mul_assoc, ih]
      omega
    · simp

theorem reduce_lowest (numerator shift : Nat) :
    (reduce numerator shift).numerator % 2 = 1 ∨ (reduce numerator shift).shift = 0 := by
  induction shift generalizing numerator with
  | zero => exact .inr rfl
  | succ shift ih =>
    rw [reduce]
    split
    · exact ih _
    · next hodd => exact .inl (by simp only; omega)

end Dyadic

end ExternalSort
