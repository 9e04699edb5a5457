/-!
# Division rounded up

`ceilDiv a b` is the least number of portions of size `b` that hold `a`
(`ceilDiv_le_iff`).
-/

namespace ExternalSort

/-- The quotient of `a` and `b`, rounded up. -/
def ceilDiv (a b : Nat) : Nat := (a + b - 1) / b

/-- `count` portions of size `b` are enough exactly if they hold `a`. -/
theorem ceilDiv_le_iff {a b count : Nat} (hb : 0 < b) : ceilDiv a b ≤ count ↔ a ≤ count * b := by
  rw [ceilDiv, ← Nat.lt_succ_iff, Nat.div_lt_iff_lt_mul hb, Nat.succ_mul]
  omega

theorem ceilDiv_le_ceilDiv {a a' b : Nat} (hb : 0 < b) (h : a ≤ a') :
    ceilDiv a b ≤ ceilDiv a' b :=
  (ceilDiv_le_iff hb).2 (Nat.le_trans h ((ceilDiv_le_iff hb).1 (Nat.le_refl _)))

theorem ceilDiv_eq_div_add {a b : Nat} (hb : 0 < b) :
    ceilDiv a b = a / b + if a % b = 0 then 0 else 1 := by
  have hdivision := Nat.div_add_mod a b
  have hrest := Nat.mod_lt a hb
  split
  · have hsum : a + b - 1 = b - 1 + b * (a / b) := by omega
    rw [ceilDiv, hsum, Nat.add_mul_div_left _ _ hb, Nat.div_eq_of_lt (Nat.sub_one_lt_of_lt hb),
      Nat.zero_add, Nat.add_zero]
  · have hsum : a + b - 1 = a % b - 1 + b * (a / b + 1) := by
      rw [Nat.mul_succ]
      omega
    rw [ceilDiv, hsum, Nat.add_mul_div_left _ _ hb, Nat.div_eq_of_lt (by omega), Nat.zero_add]

end ExternalSort
