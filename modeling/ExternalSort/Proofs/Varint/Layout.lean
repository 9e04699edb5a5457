import Mathlib.Order.Bounds.Basic
import ExternalSort.Proofs.Varint.Canonical
import ExternalSort.Varint.Stream

/-!
# The layout of an encoding

The bytes of a value, told from the value alone: a value of the band is its own byte, and
any other value is a length byte with the base-256 digits of the value behind it. There are
as many digits as the value needs to lie between `-256 ^ n` and `256 ^ n`.

Results:
1. `payloadLength_isLeast`: the bits of the magnitude give the least such number, on both
   sides of zero.
2. `lowBytes_eq_map`: a payload is a list of digits.
3. `encode_layout`: the three ways of writing a value give these bytes and count them.
-/

namespace ExternalSort

/-- A number has a digit for each power of 256, and the highest power comes first. -/
theorem BigEndian.digits_eq_map (count n : Nat) :
    digits count n
      = (List.range count).reverse.map fun place => UInt8.ofNat (n / 256 ^ place % 256) := by
  -- The last digit is split off, and those before it belong to `n / 256`.
  induction count generalizing n with
  | zero => rfl
  | succ count ih =>
    have hlowest : UInt8.ofNat (n / 256 ^ 0 % 256) = UInt8.ofNat n := by
      rw [Nat.pow_zero, Nat.div_one]
      exact UInt8.ofNat_mod_size
    have hhigher (place : Nat) : n / 256 / 256 ^ place = n / 256 ^ (place + 1) := by
      rw [Nat.div_div_eq_div_mul, Nat.pow_succ']
    rw [digits, ih, List.range_succ_eq_map, List.reverse_cons, List.map_append,
      List.map_singleton, hlowest, ← List.map_reverse, List.map_map]
    simp only [hhigher, Function.comp_def, Nat.succ_eq_add_one]

namespace Varint

variable {value : Int64}

/-! ## 1. Lengths -/

theorem payloadLength_isLeast (value : Int64) :
    IsLeast {n : Nat | 1 ≤ n ∧ -256 ^ n ≤ value.toInt ∧ value.toInt < 256 ^ n}
      (payloadLength value) := by
  constructor
  · exact ⟨payloadLength_pos value, toInt_range value⟩
  · rintro n ⟨hpos, hrange⟩
    have hbound : ((256 ^ n : Nat) : Int) = 256 ^ n := Int.natCast_pow 256 n
    rw [payloadLength_le_iff hpos, magnitude_lt_iff, hbound]
    exact hrange

theorem toInt_first (value : Int64) :
    (lengthByte (value.toInt < 0) (payloadLength value)).toUInt8.toInt8.toInt
      = if 0 ≤ value.toInt then -(112 + payloadLength value : Int)
        else -(120 + payloadLength value) := by
  rw [Int8.toInt8_toUInt8, toInt_lengthByte _ (payloadLength_le value)]
  rcases Int.lt_or_le value.toInt 0 with hneg | hnonneg
  · rw [decide_eq_true hneg, if_neg (Int.not_le.2 hneg), lengthBase]
    omega
  · rw [decide_eq_false (Int.not_lt.2 hnonneg), if_pos hnonneg, lengthBase]
    omega

/-! ## 2. Bytes -/

theorem lowBytes_eq_map {count : Nat} (hle : count ≤ 8) (value : Int64) :
    lowBytes count value = (List.range count).reverse.map fun place =>
      UInt8.ofNat ((value.toInt % 256 ^ count).toNat / 256 ^ place % 256) := by
  have hvalue : BigEndian.value (lowBytes count value) = (value.toInt % 256 ^ count).toNat := by
    have hlow := value_lowBytes hle value
    omega
  have hdigits := BigEndian.digits_value (lowBytes count value)
  rw [length_lowBytes, hvalue] at hdigits
  rw [← BigEndian.digits_eq_map, hdigits]

theorem encode_of_inBand (h : inBand value) :
    encode value = [UInt8.ofNat (value.toInt % 256).toNat] := by
  rw [encode, if_pos h, lowBytes_one_iff, UInt8.toNat_ofNat']
  omega

theorem encode_of_not_inBand (h : inBand value = false) :
    encode value = (lengthByte (value.toInt < 0) (payloadLength value)).toUInt8 ::
      lowBytes (payloadLength value) value := by
  rw [encode, h, if_neg Bool.false_ne_true]

/-! ## 3. Ways of writing -/

theorem writeTo_growing (written : List UInt8) (value : Int64) :
    writeTo (.growing written) value
      = (.ok (encodedLength value), .growing (written ++ encode value)) := by
  rw [writeTo_eq]
  rfl

/-- A value of the band is written as its own byte. Any other value is written as the least
number of digits that hold it, behind a byte that tells their number and the sign. Appending
the bytes and writing them to a sink that grows gives the same bytes behind those that were
there, and counts them. -/
theorem encode_layout (value : Int64) :
    let i := value.toInt
    (-112 ≤ i ∧ i ≤ 127 → encode value = [UInt8.ofNat (i % 256).toNat]) ∧
    (i < -112 ∨ 127 < i →
      ∃ n, IsLeast {n : Nat | 1 ≤ n ∧ -256 ^ n ≤ i ∧ i < 256 ^ n} n ∧ n ≤ 8 ∧
        ∃ first : UInt8,
          first.toInt8.toInt = (if 0 ≤ i then -(112 + n : Int) else -(120 + n)) ∧
          encode value = first :: (List.range n).reverse.map fun place =>
            UInt8.ofNat ((i % 256 ^ n).toNat / 256 ^ place % 256)) ∧
    (encode value).length = encodedLength value ∧
    (∀ bytes, append bytes value = (bytes ++ encode value, encodedLength value)) ∧
    ∀ written, writeTo (.growing written) value
      = (.ok (encodedLength value), .growing (written ++ encode value)) := by
  intro i
  refine ⟨?_, ?_, length_encode value, fun bytes => append_eq bytes value,
    fun written => writeTo_growing written value⟩
  · intro hband
    exact encode_of_inBand (inBand_iff.2 hband)
  · intro houtside
    have hband : inBand value = false := by
      rw [← Bool.not_eq_true, inBand_iff]
      omega
    refine ⟨payloadLength value, payloadLength_isLeast value, payloadLength_le value, _,
      toInt_first value, ?_⟩
    rw [encode_of_not_inBand hband, lowBytes_eq_map (payloadLength_le value)]

/-- The band ends with one byte, and `-257` is the first negative value with two digits. -/
theorem encode_layout_edges :
    encode (-112) = [144] ∧
    ∃ first : UInt8, first.toInt8.toInt = -122 ∧ encode (-257) = [first, 254, 255] := by
  obtain ⟨hband, -⟩ := encode_layout (-112)
  obtain ⟨-, houtside, -⟩ := encode_layout (-257)
  obtain ⟨n, hleast, -, first, hfirst, hbytes⟩ := houtside (by decide)
  have htwo : n = 2 := by
    apply hleast.unique
    constructor
    · exact ⟨by decide, by decide, by decide⟩
    · rintro m ⟨hpos, hlow, -⟩
      by_contra hless
      obtain rfl : m = 1 := by omega
      exact absurd hlow (by decide)
  subst htwo
  exact ⟨hband (by decide), first, hfirst, hbytes⟩

end Varint

end ExternalSort
