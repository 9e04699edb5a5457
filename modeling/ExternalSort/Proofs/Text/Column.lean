import ExternalSort.Text.Column

/-!
# Reading columns back

A text that fits its column is found there again, without the spaces in front of it
(`column_alignRight`). Bytes that were written in binary are read back group by group
(`readBinary?_binary`).

The widths of columns follow from the lengths of what stands in them: eight digits for a byte
and a space between two of them (`length_binary`), and at most twenty characters for a signed
64-bit number (`length_toString_toInt_le`).
-/

namespace ExternalSort.Text

variable {text : String} {width : Nat}

/-! ## 1. Columns -/

/-- What stands in the columns from `start` on, without the spaces in front of it. -/
def column (start width : Nat) (line : String) : List Char :=
  ((line.toList.drop start).take width).dropWhile (· = ' ')

@[simp] theorem toList_padStart (fill : Char) (width : Nat) (text : String) :
    (padStart fill width text).toList
      = List.replicate (width - text.length) fill ++ text.toList := by
  rw [padStart, String.toList_append, String.toList_ofList]

theorem length_padStart (fill : Char) (h : text.length ≤ width) :
    (padStart fill width text).length = width := by
  rw [padStart, String.length_append, String.length_ofList, List.length_replicate]
  omega

theorem length_alignRight (h : text.length ≤ width) : (alignRight width text).length = width :=
  length_padStart ' ' h

theorem notMem_alignRight {c : Char} (hspace : c ≠ ' ') (htext : c ∉ text.toList) :
    c ∉ (alignRight width text).toList := by
  rw [alignRight, toList_padStart]
  intro hc
  rcases List.mem_append.1 hc with hpadding | hshown
  · exact hspace (List.eq_of_mem_replicate hpadding)
  · exact htext hshown

/-- A text that fits its column and does not start with a space is found in it again. -/
theorem column_alignRight (front rest : String) (hfits : text.length ≤ width)
    (hfirst : text.toList.head? ≠ some ' ') :
    column front.length width (front ++ alignRight width text ++ rest) = text.toList := by
  have hlength : (alignRight width text).toList.length = width := by
    rw [String.length_toList, length_alignRight hfits]
  rw [column, String.toList_append, String.toList_append, List.append_assoc,
    ← String.length_toList, List.drop_left, List.take_left' hlength, alignRight, toList_padStart,
    List.dropWhile_append_of_pos]
  · cases hchars : text.toList with
    | nil => rfl
    | cons c chars =>
      rw [hchars] at hfirst
      exact List.dropWhile_cons_of_neg (by simpa using hfirst)
  · intro c hc
    simpa using List.eq_of_mem_replicate hc

/-! ## 2. Bytes in binary -/

/-- The byte that eight binary digits spell. -/
def readByte? (digits : List Char) : Option UInt8 :=
  if digits.length = 8 && digits.all fun c => c = '0' || c = '1' then
    some (UInt8.ofNat (Nat.ofDigitChars 2 digits 0))
  else none

/-- The bytes of groups of binary digits, with a single space between two of them. -/
def readBinary? (text : List Char) : Option (List UInt8) := (text.splitOn ' ').mapM readByte?

theorem mem_toDigits_two {n : Nat} {c : Char} (h : c ∈ Nat.toDigits 2 n) : c = '0' ∨ c = '1' := by
  have hdigit (d : Nat) (hd : d < 2) (hc : c = d.digitChar) : c = '0' ∨ c = '1' := by
    obtain rfl | rfl : d = 0 ∨ d = 1 := by omega
    · exact .inl hc
    · exact .inr hc
  induction n using Nat.strongRecOn with
  | ind n ih =>
    rw [Nat.toDigits_eq_if (by decide)] at h
    split at h
    · next hlt => exact hdigit n hlt (List.mem_singleton.1 h)
    · rcases List.mem_append.1 h with hhigh | hlow
      · exact ih (n / 2) (by omega) hhigh
      · exact hdigit (n % 2) (Nat.mod_lt _ Nat.two_pos) (List.mem_singleton.1 hlow)

theorem length_toDigits_two (byte : UInt8) :
    (String.ofList (Nat.toDigits 2 byte.toNat)).length ≤ 8 := by
  rw [String.length_ofList, Nat.length_toDigits_le_iff (by decide) (by decide)]
  exact byte.toNat_lt

theorem length_binaryDigits (byte : UInt8) : (binaryDigits byte).length = 8 :=
  length_padStart '0' (length_toDigits_two byte)

theorem mem_binaryDigits {byte : UInt8} {c : Char} (h : c ∈ (binaryDigits byte).toList) :
    c = '0' ∨ c = '1' := by
  rw [binaryDigits, toList_padStart, String.toList_ofList] at h
  rcases List.mem_append.1 h with hzero | hdigit
  · exact .inl (List.eq_of_mem_replicate hzero)
  · exact mem_toDigits_two hdigit

theorem readByte?_binaryDigits (byte : UInt8) :
    readByte? (binaryDigits byte).toList = some byte := by
  have hdigits : ((binaryDigits byte).toList.length = 8 &&
      (binaryDigits byte).toList.all fun c => c = '0' || c = '1') = true := by
    simpa using ⟨length_binaryDigits byte, fun c hc => mem_binaryDigits hc⟩
  have hvalue : Nat.ofDigitChars 2 (binaryDigits byte).toList 0 = byte.toNat := by
    rw [binaryDigits, toList_padStart, String.toList_ofList, Nat.ofDigitChars_append,
      Nat.ofDigitChars_replicate_zero, Nat.mul_zero, Nat.ofDigitChars_toDigits] <;> decide
  rw [readByte?, if_pos hdigits, hvalue, UInt8.ofNat_toNat]

theorem toList_binary (bytes : List UInt8) :
    (binary bytes).toList = [' '].intercalate (bytes.map fun byte => (binaryDigits byte).toList) := by
  rw [binary, String.toList_intercalate, List.map_map]
  rfl

theorem mapM_readByte? (bytes : List UInt8) :
    (bytes.map fun byte => (binaryDigits byte).toList).mapM readByte? = some bytes := by
  induction bytes with
  | nil => rfl
  | cons byte bytes ih =>
    rw [List.map_cons, List.mapM_cons, readByte?_binaryDigits, ih]
    rfl

/-- Bytes in binary are read back. -/
theorem readBinary?_binary {bytes : List UInt8} (h : bytes ≠ []) :
    readBinary? (binary bytes).toList = some bytes := by
  have hgroups : ∀ group ∈ bytes.map fun byte => (binaryDigits byte).toList, ' ' ∉ group := by
    intro group hgroup hspace
    obtain ⟨byte, -, rfl⟩ := List.mem_map.1 hgroup
    rcases mem_binaryDigits hspace with hzero | hone
    · cases hzero
    · cases hone
  rw [readBinary?, toList_binary, List.splitOn_intercalate _ hgroups (by simpa using h),
    mapM_readByte?]

theorem binary_singleton (byte : UInt8) : binary [byte] = binaryDigits byte :=
  String.intercalate_singleton

theorem binary_cons_cons (byte next : UInt8) (bytes : List UInt8) :
    binary (byte :: next :: bytes) = binaryDigits byte ++ " " ++ binary (next :: bytes) :=
  String.intercalate_cons_cons

theorem length_binary {bytes : List UInt8} (h : bytes ≠ []) :
    (binary bytes).length + 1 = 9 * bytes.length := by
  have hspace : " ".length = 1 := rfl
  induction bytes with
  | nil => exact absurd rfl h
  | cons byte bytes ih =>
    have hbyte := length_binaryDigits byte
    cases bytes with
    | nil =>
      rw [binary_singleton, hbyte]
      rfl
    | cons next bytes =>
      have hrest := ih (List.cons_ne_nil _ _)
      rw [binary_cons_cons, String.length_append, String.length_append, List.length_cons]
      omega

theorem mem_binary {bytes : List UInt8} {c : Char} (h : c ∈ (binary bytes).toList) :
    c = ' ' ∨ c = '0' ∨ c = '1' := by
  induction bytes with
  | nil => cases h
  | cons byte bytes ih =>
    cases bytes with
    | nil =>
      rw [binary_singleton] at h
      exact .inr (mem_binaryDigits h)
    | cons next bytes =>
      rw [binary_cons_cons, String.toList_append, String.toList_append, List.mem_append,
        List.mem_append] at h
      obtain (hbyte | hspace) | hrest := h
      · exact .inr (mem_binaryDigits hbyte)
      · exact .inl (List.mem_singleton.1 hspace)
      · exact ih hrest

theorem head?_binaryDigits_ne (byte : UInt8) : (binaryDigits byte).toList.head? ≠ some ' ' := by
  intro hhead
  exact absurd (mem_binaryDigits (List.mem_of_head? hhead)) (by decide)

theorem head?_binary_ne (bytes : List UInt8) : (binary bytes).toList.head? ≠ some ' ' := by
  match bytes with
  | [] => nofun
  | [byte] =>
    rw [binary_singleton]
    exact head?_binaryDigits_ne byte
  | byte :: next :: bytes =>
    have hdigits : (binaryDigits byte).toList ≠ [] := by
      rw [← List.length_pos_iff, String.length_toList, length_binaryDigits]
      decide
    obtain ⟨c, hc⟩ := Option.isSome_iff_exists.1 (List.isSome_head?.2 hdigits)
    rw [binary_cons_cons, String.append_assoc, String.toList_append, List.head?_append, hc,
      Option.some_or, ← hc]
    exact head?_binaryDigits_ne byte

/-! ## 3. Numbers -/

/-- A signed 64-bit number takes at most twenty characters. -/
theorem length_toString_toInt_le (value : Int64) : (toString value.toInt).length ≤ 20 := by
  have hlow := value.le_toInt
  have hhigh := value.toInt_lt
  have hdigits (n : Nat) (hn : n < 10 ^ 19) : n.repr.length ≤ 19 := by
    rw [Nat.repr_eq_ofList_toDigits, String.length_ofList,
      Nat.length_toDigits_le_iff (by decide) (by decide)]
    exact hn
  rw [Int.toString_eq_repr, Int.repr_eq_if]
  split
  · exact Nat.le_succ_of_le (hdigits _ (by omega))
  · have hsign : "-".length = 1 := rfl
    have hrest := hdigits (-value.toInt).toNat (by omega)
    rw [String.length_append]
    omega

theorem isDigit_of_mem_repr {n : Nat} {c : Char} (h : c ∈ n.repr.toList) : c.isDigit := by
  rw [Nat.repr_eq_ofList_toDigits, String.toList_ofList] at h
  exact Nat.isDigit_of_mem_toDigits (by decide) (by decide) h

theorem notMem_toString {c : Char} (hdigit : ¬c.isDigit) (hsign : c ≠ '-') (i : Int) :
    c ∉ (toString i).toList := by
  rw [Int.toString_eq_repr, Int.repr_eq_if]
  intro hc
  split at hc
  · exact hdigit (isDigit_of_mem_repr hc)
  · rw [String.toList_append] at hc
    rcases List.mem_append.1 hc with hfirst | hrest
    · exact hsign (List.mem_singleton.1 hfirst)
    · exact hdigit (isDigit_of_mem_repr hrest)

theorem head?_toString_ne (i : Int) : (toString i).toList.head? ≠ some ' ' := by
  intro hhead
  exact notMem_toString (by decide) (by decide) i (List.mem_of_head? hhead)

end ExternalSort.Text
