import ExternalSort.Power

/-!
# Big-endian bytes

A natural number below `256 ^ count` and its `count` base-256 digits, most
significant first. `digits` writes them and `value` reads them.

Results: the digits have the asked length (`length_digits`), reading them back
gives the number modulo `256 ^ count` (`value_digits`), and a byte string is
the digits of its own value (`digits_value`). So for one length the two are
inverse to each other.
-/

namespace ExternalSort.BigEndian

/-- The low `count` base-256 digits of `n`, most significant first. Higher
digits are dropped. -/
def digits : Nat → Nat → List UInt8
  | 0, _ => []
  | count + 1, n => digits count (n / 256) ++ [UInt8.ofNat n]

/-- The number that `bytes` spell in base 256, most significant first. -/
def value (bytes : List UInt8) : Nat :=
  bytes.foldl (fun high byte => 256 * high + byte.toNat) 0

@[simp] theorem length_digits (count n : Nat) : (digits count n).length = count := by
  induction count generalizing n with
  | zero => rfl
  | succ count ih => simp [digits, ih]

@[simp] theorem value_nil : value [] = 0 := rfl

theorem value_append_singleton (bytes : List UInt8) (byte : UInt8) :
    value (bytes ++ [byte]) = 256 * value bytes + byte.toNat := by
  simp [value]

/-- Reading the digits of `n` gives `n` without the dropped digits. -/
theorem value_digits (count n : Nat) : value (digits count n) = n % 256 ^ count := by
  induction count generalizing n with
  | zero => simp [digits, Nat.mod_one]
  | succ count ih =>
    have hbyte : (UInt8.ofNat n).toNat = n % 256 := by simp
    rw [digits, value_append_singleton, ih, hbyte, Nat.pow_succ', Nat.mod_mul]
    omega

/-- A byte string is empty, or it is a shorter one with a last byte. -/
theorem induction_append {P : List UInt8 → Prop} (nil : P [])
    (append : ∀ bytes byte, P bytes → P (bytes ++ [byte])) (bytes : List UInt8) : P bytes := by
  rw [← bytes.reverse_reverse]
  induction bytes.reverse with
  | nil => exact nil
  | cons byte bytes ih =>
    rw [List.reverse_cons]
    exact append _ _ ih

/-- `count` bytes spell a number below `256 ^ count`. -/
theorem value_lt (bytes : List UInt8) : value bytes < 256 ^ bytes.length := by
  induction bytes using induction_append with
  | nil => simp
  | append bytes byte ih =>
    rw [value_append_singleton, List.length_append, List.length_singleton, Nat.pow_succ]
    have := byte.toNat_lt
    omega

/-- Every byte string is the digits of the number it spells. -/
theorem digits_value (bytes : List UInt8) : digits bytes.length (value bytes) = bytes := by
  induction bytes using induction_append with
  | nil => rfl
  | append bytes byte ih =>
    have hlt := byte.toNat_lt
    have hhigh : (256 * value bytes + byte.toNat) / 256 = value bytes := by omega
    have hlow : UInt8.ofNat (256 * value bytes + byte.toNat) = byte := by
      apply UInt8.toNat_inj.1
      simp
    rw [List.length_append, List.length_singleton, value_append_singleton, digits, hhigh, hlow, ih]

theorem value_inj {bytes bytes' : List UInt8} (hlength : bytes.length = bytes'.length)
    (hvalue : value bytes = value bytes') : bytes = bytes' := by
  rw [← digits_value bytes, hlength, hvalue, digits_value]

end ExternalSort.BigEndian
