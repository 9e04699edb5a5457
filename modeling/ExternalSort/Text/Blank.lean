/-!
# Blank characters

A blank is a character with the property White_Space: the space, the line and
page controls, the spaces of various widths and the two separators. Zero-width
characters and the information separators `U+001C … U+001F` are not blank.

Results: a trimmed text has no blank at its ends (`trimStart_trimStart`,
`trim_trim`), and trimming a padded text removes the padding (`trimStart_append`).
-/

namespace ExternalSort.Text

/-- The characters with the property White_Space, as ranges of code points. -/
def blankRanges : List (Nat × Nat) :=
  [(0x09, 0x0D), (0x20, 0x20), (0x85, 0x85), (0xA0, 0xA0), (0x1680, 0x1680), (0x2000, 0x200A),
    (0x2028, 0x2029), (0x202F, 0x202F), (0x205F, 0x205F), (0x3000, 0x3000)]

/-- The character is blank. -/
def isBlank (c : Char) : Bool :=
  blankRanges.any fun range => range.1 ≤ c.toNat && c.toNat ≤ range.2

/-- A text without the blanks at its front. -/
def trimStart (text : List Char) : List Char := text.dropWhile isBlank

/-- A text without the blanks at its end. -/
def trimEnd (text : List Char) : List Char := (trimStart text.reverse).reverse

/-- A text without the blanks at its two ends. -/
def trim (text : String) : String := String.ofList (trimEnd (trimStart text.toList))

theorem trimStart_append {blanks : List Char} (h : ∀ c ∈ blanks, isBlank c) (text : List Char) :
    trimStart (blanks ++ text) = trimStart text :=
  List.dropWhile_append_of_pos h

theorem trimStart_trimStart (text : List Char) : trimStart (trimStart text) = trimStart text := by
  induction text with
  | nil => rfl
  | cons c text ih =>
    by_cases h : isBlank c
    · simpa [trimStart, List.dropWhile_cons, h] using ih
    · simp [trimStart, h]

theorem trimEnd_trimEnd (text : List Char) : trimEnd (trimEnd text) = trimEnd text := by
  rw [trimEnd, trimEnd, List.reverse_reverse, trimStart_trimStart]

theorem trimStart_eq_self_iff {text : List Char} :
    trimStart text = text ↔ ∀ c ∈ text.head?, isBlank c = false := by
  cases text with
  | nil => exact iff_of_true rfl nofun
  | cons c text =>
    cases h : isBlank c
    · simp [trimStart, h]
    · have hlength : (text.dropWhile isBlank).length ≤ text.length :=
        (List.dropWhile_sublist isBlank).length_le
      refine iff_of_false ?_ (by simp [h])
      intro heq
      rw [trimStart, List.dropWhile_cons_of_pos h] at heq
      rw [heq, List.length_cons] at hlength
      omega

theorem trimStart_trimEnd {text : List Char} (h : trimStart text = text) :
    trimStart (trimEnd text) = trimEnd text := by
  have hprefix : trimEnd text <+: text := by
    rw [← List.reverse_suffix, trimEnd, List.reverse_reverse]
    exact List.dropWhile_suffix isBlank
  rw [trimStart_eq_self_iff] at h ⊢
  intro c hc
  obtain ⟨rest, hrest⟩ := hprefix
  apply h c
  rw [← hrest, List.head?_append, hc]
  rfl

theorem trim_trim (text : String) : trim (trim text) = trim text := by
  have hfront := trimStart_trimEnd (trimStart_trimStart text.toList)
  rw [trim, trim, String.toList_ofList, hfront, trimEnd_trimEnd]

/-- Splits a text at the first `mark`, which belongs to neither part. -/
def splitAtFirst? (mark : Char) (text : String) : Option (String × String) :=
  match text.toList.dropWhile (· != mark) with
  | [] => none
  | _ :: rest => some (String.ofList (text.toList.takeWhile (· != mark)), String.ofList rest)

end ExternalSort.Text
