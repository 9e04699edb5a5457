import ExternalSort.Proofs.Merge.FanIns

/-!
# What a merge reads

Each pass reads segments and makes one. All segments are read once, those that were there
and those that passes have made, but for the last one made. So what a merge reads follows
from the number of segments and the number of passes, and the policies read the same.

A machine adds up the sizes of the passes in words of 64 bits (`wordSum?`). The sum so far
never exceeds the whole sum, so the sum fits if its value does (`wordSum?_eq`).
-/

namespace ExternalSort.Merge

/-! ## 1. Sums of words -/

/-- One more term, if the sum still fits into a word. -/
def addWord? (sum term : Nat) : Option Nat :=
  if sum + term < 2 ^ 64 then some (sum + term) else none

/-- A sum that is computed in words, term by term from the first one on. -/
def wordSum? (terms : List Nat) : Option Nat := terms.foldlM addWord? 0

theorem foldlM_addWord?_eq (terms : List Nat) {sum : Nat} (hsum : sum < 2 ^ 64) :
    terms.foldlM addWord? sum
      = if sum + terms.sum < 2 ^ 64 then some (sum + terms.sum) else none := by
  induction terms generalizing sum with
  | nil =>
    rw [List.foldlM_nil, List.sum_nil, Nat.add_zero, if_pos hsum]
    rfl
  | cons term terms ih =>
    rw [List.foldlM_cons, List.sum_cons, ← Nat.add_assoc, addWord?]
    by_cases hfits : sum + term < 2 ^ 64
    · rw [if_pos hfits]
      exact ih hfits
    · rw [if_neg hfits, if_neg (by omega)]
      rfl

/-- The sum in words is the sum, unless that does not fit. -/
theorem wordSum?_eq (terms : List Nat) :
    wordSum? terms = if terms.sum < 2 ^ 64 then some terms.sum else none := by
  have hsum := foldlM_addWord?_eq terms (Nat.two_pow_pos 64)
  rwa [Nat.zero_add] at hsum

/-! ## 2. Traces -/

variable {policy : Policy} {factor segments : Nat}

/-- The segments that a trace reads are those of the start and those that the passes make,
but for one. Computed in words, their number is the same if it fits. It is the same under
both policies, and no larger for fewer segments. -/
theorem segmentsRead_conserved {log : Log} {trace : Trace}
    (h : (Attempt.after (schedule policy factor segments) log).1 = .ok trace) :
    trace.segmentsRead = segments - 1 + trace.passes.length ∧
    (segments - 1 + trace.passes.length < 2 ^ 64 →
      wordSum? trace.fanIns = some (segments - 1 + trace.passes.length)) ∧
    ∀ (policy' : Policy) (segments' : Nat) (log' : Log) (trace' : Trace), segments' ≤ segments →
      (Attempt.after (schedule policy' factor segments') log').1 = .ok trace' →
        trace'.segmentsRead ≤ trace.segmentsRead ∧
          (segments' = segments → trace'.segmentsRead = trace.segmentsRead) := by
  obtain ⟨hmergeable, rfl⟩ := schedule_eq_ok_iff.1 h
  have hsum := sum_fanIn_passList policy hmergeable
  refine ⟨hsum, ?_, ?_⟩
  · intro hfits
    rw [← hsum] at hfits ⊢
    exact (wordSum?_eq _).trans (if_pos hfits)
  · intro policy' segments' log' trace' hle h'
    obtain ⟨hmergeable', rfl⟩ := schedule_eq_ok_iff.1 h'
    have hmono := sum_fanIn_passList_mono hmergeable (Nat.le_refl _) hmergeable'.2.1 hle policy
      policy'
    refine ⟨hmono, ?_⟩
    rintro rfl
    exact Nat.le_antisymm hmono
      (sum_fanIn_passList_mono hmergeable' (Nat.le_refl _) hmergeable.2.1 hle policy' policy)

/-- With a factor of five, 23 segments are merged in six passes. Both policies read all of them,
and all but one of those that the passes make. -/
theorem segmentsRead_conserved_five_twentyThree :
    ∃ trace trace', (Attempt.after (schedule .remainderFirst 5 23) #[]).1 = .ok trace ∧
      (Attempt.after (schedule .remainderLast 5 23) #[]).1 = .ok trace' ∧
      wordSum? trace.fanIns = some 28 ∧ trace'.segmentsRead = trace.segmentsRead := by
  have hmergeable : Mergeable 5 23 := by decide
  have hlength : (passList .remainderFirst 5 23).length = 6 := hmergeable.length_passList _
  obtain ⟨-, hwords, hothers⟩ :=
    segmentsRead_conserved (hmergeable.schedule_eq .remainderFirst #[])
  rw [hlength] at hwords
  obtain ⟨-, hsame⟩ := hothers _ _ _ _ (Nat.le_refl 23) (hmergeable.schedule_eq .remainderLast #[])
  exact ⟨_, _, hmergeable.schedule_eq .remainderFirst #[],
    hmergeable.schedule_eq .remainderLast #[], hwords (by decide), hsame rfl⟩

end ExternalSort.Merge
