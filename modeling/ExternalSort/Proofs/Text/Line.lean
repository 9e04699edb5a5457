import ExternalSort.Binary64.Shortest
import ExternalSort.Merge.Policy
import ExternalSort.Proofs.Text.Column

/-!
# Texts of one line

A line has a single newline, at its end (`Text.IsLine`). What is reported within a line has
none: neither have whole numbers, nor double-precision numbers, nor the names of policies.
-/

namespace ExternalSort

namespace Text

/-- A text with a single newline, which stands at its end. -/
def IsLine (text : String) : Prop := ∃ front, '\n' ∉ front.toList ∧ text = front ++ "\n"

variable {c : Char} {text text' : String}

theorem notMem_append (h : c ∉ text.toList) (h' : c ∉ text'.toList) :
    c ∉ (text ++ text').toList := by
  rw [String.toList_append, List.mem_append]
  exact not_or.2 ⟨h, h'⟩

theorem notMem_toString_nat (hdigit : ¬c.isDigit) (n : Nat) : c ∉ (toString n).toList :=
  fun hc => hdigit (isDigit_of_mem_repr hc)

end Text

open Text

namespace Decimal

variable {c : Char}

theorem mem_withPoint {digits : List Char} {places : Nat} (h : c ∈ withPoint digits places) :
    c = '0' ∨ c = '.' ∨ c ∈ digits := by
  have hpadded (hc : c ∈ List.replicate (places + 1 - digits.length) '0' ++ digits) :
      c = '0' ∨ c = '.' ∨ c ∈ digits := by
    rcases List.mem_append.1 hc with hzero | hdigit
    · exact .inl (List.eq_of_mem_replicate hzero)
    · exact .inr (.inr hdigit)
  rcases List.mem_append.1 h with hwhole | hrest
  · exact hpadded (List.mem_of_mem_take hwhole)
  rcases List.mem_cons.1 hrest with hpoint | hfraction
  · exact .inr (.inl hpoint)
  · exact hpadded (List.mem_of_mem_drop hfraction)

theorem mem_positional {x : Decimal} (h : c ∈ x.positional.toList) :
    c = '0' ∨ c = '.' ∨ c ∈ Nat.toDigits 10 x.digits := by
  unfold positional at h
  split at h
  · rw [String.toList_ofList] at h
    rcases List.mem_append.1 h with hdigit | hzero
    · exact .inr (.inr hdigit)
    · exact .inl (List.eq_of_mem_replicate hzero)
  · rw [String.toList_ofList] at h
    exact mem_withPoint h

end Decimal

theorem Binary64.newline_notMem_display (x : Binary64) : '\n' ∉ x.display.toList := by
  have hdecimal : '\n' ∉ x.shortest.positional.toList := by
    intro hmem
    obtain hzero | hpoint | hdigit := Decimal.mem_positional hmem
    · cases hzero
    · cases hpoint
    · exact absurd (Nat.isDigit_of_mem_toDigits (by decide) (by decide) hdigit) (by decide)
  have hmagnitude : '\n' ∉ (if x.isInfinite then "inf" else if x.isZero then "0"
      else x.shortest.positional).toList := by
    split
    · decide
    split
    · decide
    · exact hdecimal
  unfold display
  split
  · decide
  simp only
  split
  · exact notMem_append (by decide) hmagnitude
  · exact hmagnitude

theorem Merge.Policy.newline_notMem_name (policy : Policy) : '\n' ∉ policy.name.toList := by
  cases policy <;> decide

end ExternalSort
