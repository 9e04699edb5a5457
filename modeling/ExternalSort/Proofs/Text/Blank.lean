import ExternalSort.Text.Blank
import Mathlib.Data.List.TakeWhile

/-!
# Trimmed and split texts

Trimming and splitting are functions; here they are described by how the text can be put
together again from what they leave. A padded text has blanks in front and behind
(`IsPadded`), which do not matter to trimming (`IsPadded.trim_eq`). What trimming leaves is
padded by nothing more: it is the one text without a blank at its ends from which padding
makes the whole text (`isTrimmed_iff`). A text is split at a mark into two parts which make
the whole with the mark between them, and the first part has no mark
(`splitAtFirst?_eq_some_iff`).
-/

namespace ExternalSort.Text

variable {text core : String}

/-! ## 1. Padded texts -/

/-- There is nothing but blanks in the text. -/
def IsBlank (text : String) : Prop := ∀ c ∈ text.toList, isBlank c

instance (text : String) : Decidable (IsBlank text) :=
  List.decidableBAll (fun c => isBlank c) text.toList

/-- The text has blanks around its core, which may have more blanks at its ends. -/
def IsPadded (text core : String) : Prop :=
  ∃ front back, IsBlank front ∧ IsBlank back ∧ text = front ++ core ++ back

theorem trimStart_eq_nil {blanks : List Char} (h : ∀ c ∈ blanks, isBlank c) :
    trimStart blanks = [] :=
  List.dropWhile_eq_nil_iff.2 h

theorem trimEnd_append {blanks : List Char} (h : ∀ c ∈ blanks, isBlank c) (letters : List Char) :
    trimEnd (letters ++ blanks) = trimEnd letters := by
  rw [trimEnd, List.reverse_append,
    trimStart_append fun c hc => h c (List.mem_reverse.1 hc), ← trimEnd]

theorem trimEnd_trimStart_append {blanks : List Char} (h : ∀ c ∈ blanks, isBlank c)
    (letters : List Char) :
    trimEnd (trimStart (letters ++ blanks)) = trimEnd (trimStart letters) := by
  rw [trimStart, List.dropWhile_append, ← trimStart, ← trimStart]
  split
  · next hnothing =>
    rw [trimStart_eq_nil h, List.isEmpty_iff.1 hnothing]
  · exact trimEnd_append h _

theorem IsPadded.trim_eq (h : IsPadded text core) : trim text = trim core := by
  obtain ⟨front, back, hfront, hback, rfl⟩ := h
  rw [trim, String.toList_append, String.toList_append, List.append_assoc,
    trimStart_append hfront, trimEnd_trimStart_append hback, ← trim]

theorem IsPadded.mem_iff {c : Char} (h : IsPadded text core) (hc : isBlank c = false) :
    c ∈ text.toList ↔ c ∈ core.toList := by
  obtain ⟨front, back, hfront, hback, rfl⟩ := h
  have hnot : ∀ blanks, IsBlank blanks → c ∉ blanks.toList := by
    intro blanks hblanks hmem
    rw [hblanks c hmem] at hc
    cases hc
  simp [hnot front hfront, hnot back hback]

/-! ## 2. Trimmed texts -/

/-- The core of a padded text has no blank at its own ends. -/
structure IsTrimmed (text core : String) : Prop where
  padded : IsPadded text core
  first_not_blank : ∀ c ∈ core.toList.head?, isBlank c = false
  last_not_blank : ∀ c ∈ core.toList.getLast?, isBlank c = false

theorem trimEnd_eq_self_iff {letters : List Char} :
    trimEnd letters = letters ↔ ∀ c ∈ letters.getLast?, isBlank c = false := by
  rw [trimEnd, List.reverse_eq_iff, trimStart_eq_self_iff, List.head?_reverse]

theorem isPadded_trim (text : String) : IsPadded text (trim text) := by
  let rest := trimStart text.toList
  have hrest : text.toList.takeWhile isBlank ++ rest = text.toList :=
    List.takeWhile_append_dropWhile
  have hcore : trimEnd rest ++ (rest.reverse.takeWhile isBlank).reverse = rest := by
    rw [trimEnd, trimStart, ← List.reverse_append, List.takeWhile_append_dropWhile,
      List.reverse_reverse]
  refine ⟨.ofList (text.toList.takeWhile isBlank),
    .ofList (rest.reverse.takeWhile isBlank).reverse, ?_, ?_, ?_⟩
  · intro c hc
    rw [String.toList_ofList] at hc
    exact List.mem_takeWhile_imp hc
  · intro c hc
    rw [String.toList_ofList, List.mem_reverse] at hc
    exact List.mem_takeWhile_imp hc
  · rw [trim, ← String.ofList_append, ← String.ofList_append, List.append_assoc, hcore, hrest,
      String.ofList_toList]

/-- What trimming leaves is the one core that has no blank at its ends. -/
theorem isTrimmed_iff : IsTrimmed text core ↔ core = trim text := by
  constructor
  · intro h
    rw [h.padded.trim_eq, trim, trimStart_eq_self_iff.2 h.first_not_blank,
      trimEnd_eq_self_iff.2 h.last_not_blank, String.ofList_toList]
  · rintro rfl
    refine ⟨isPadded_trim text, ?_, ?_⟩
    · rw [trim, String.toList_ofList, ← trimStart_eq_self_iff]
      exact trimStart_trimEnd (trimStart_trimStart text.toList)
    · rw [trim, String.toList_ofList, ← trimEnd_eq_self_iff]
      exact trimEnd_trimEnd _

theorem trim_eq_empty_iff : trim text = "" ↔ IsBlank text := by
  constructor
  · intro hempty
    obtain ⟨front, back, hfront, hback, htext⟩ := isPadded_trim text
    rw [hempty, String.append_empty] at htext
    intro c hc
    rw [htext, String.toList_append, List.mem_append] at hc
    exact hc.elim (hfront c) (hback c)
  · intro hblank
    have hpadded : IsPadded text "" := ⟨text, "", hblank, nofun, by simp⟩
    exact hpadded.trim_eq

theorem IsPadded.isBlank_iff (h : IsPadded text core) : IsBlank text ↔ IsBlank core := by
  rw [← trim_eq_empty_iff, h.trim_eq, trim_eq_empty_iff]

/-! ## 3. Split texts -/

variable {mark : Char} {before after : String}

theorem splitAtFirst?_of_eq (htext : text.toList = before.toList ++ mark :: after.toList)
    (hbefore : mark ∉ before.toList) : splitAtFirst? mark text = some (before, after) := by
  have hpass : ∀ c ∈ before.toList, (c != mark) = true := by
    intro c hc
    exact bne_iff_ne.2 (ne_of_mem_of_not_mem hc hbefore)
  have hdrop : text.toList.dropWhile (· != mark) = mark :: after.toList := by
    rw [htext, List.dropWhile_append_of_pos hpass,
      List.dropWhile_cons_of_neg (p := (· != mark)) (by simp)]
  have htake : text.toList.takeWhile (· != mark) = before.toList := by
    rw [htext, List.takeWhile_append_of_pos hpass,
      List.takeWhile_cons_of_neg (p := (· != mark)) (by simp), List.append_nil]
  simp only [splitAtFirst?, hdrop, htake, String.ofList_toList]

theorem splitAtFirst?_eq_none_iff : splitAtFirst? mark text = none ↔ mark ∉ text.toList := by
  constructor
  · intro hnone hmark
    obtain ⟨before, after, htext, hbefore⟩ := List.eq_append_cons_of_mem hmark
    have hsplit : splitAtFirst? mark text = some (.ofList before, .ofList after) :=
      splitAtFirst?_of_eq (by simpa using htext) (by simpa using hbefore)
    rw [hnone] at hsplit
    cases hsplit
  · intro hmark
    have hdrop : text.toList.dropWhile (· != mark) = [] := by
      rw [List.dropWhile_eq_nil_iff]
      intro c hc
      exact bne_iff_ne.2 (ne_of_mem_of_not_mem hc hmark)
    rw [splitAtFirst?, hdrop]

theorem splitAtFirst?_eq_some_iff :
    splitAtFirst? mark text = some (before, after) ↔
      text.toList = before.toList ++ mark :: after.toList ∧ mark ∉ before.toList := by
  constructor
  · intro hsplit
    have hmark : mark ∈ text.toList := by
      by_contra hnone
      rw [splitAtFirst?_eq_none_iff.2 hnone] at hsplit
      cases hsplit
    -- The text can be split in this way, and what is found is this split.
    obtain ⟨first, rest, htext, hfirst⟩ := List.eq_append_cons_of_mem hmark
    have hfound : splitAtFirst? mark text = some (.ofList first, .ofList rest) :=
      splitAtFirst?_of_eq (by simpa using htext) (by simpa using hfirst)
    rw [hsplit] at hfound
    cases hfound
    rw [String.toList_ofList, String.toList_ofList]
    exact ⟨htext, hfirst⟩
  · rintro ⟨htext, hbefore⟩
    exact splitAtFirst?_of_eq htext hbefore

end ExternalSort.Text
