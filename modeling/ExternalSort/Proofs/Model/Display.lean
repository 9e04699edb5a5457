import Mathlib.Data.List.Chain
import ExternalSort.Model
import ExternalSort.Proofs.Text.Line

/-!
# What the report of a plan says

The report of a plan ends with the passes of its merge, or it says that no merge is
needed. It says so only if there are no passes (`Plan.says_noMergeNeeded_iff`): the letter
`e` stands twice in a row in `needed`, and in nothing else that is reported
(`Text.NoRepeat`).
-/

namespace ExternalSort

/-! ## 1. Letters that are not repeated -/

namespace Text

/-- A letter never stands twice in a row in a text, and it does not stand at the front.
This carries over to texts behind each other. -/
def NoRepeat (c : Char) (text : String) : Prop :=
  (c :: text.toList).IsChain fun a b => ¬(a = c ∧ b = c)

instance (c : Char) (text : String) : Decidable (NoRepeat c text) :=
  inferInstanceAs (Decidable (List.IsChain _ _))

variable {c : Char} {text text' : String}

theorem NoRepeat.append (h : NoRepeat c text) (h' : NoRepeat c text') :
    NoRepeat c (text ++ text') := by
  unfold NoRepeat at *
  obtain ⟨hfront, hrest⟩ := List.isChain_cons.1 h'
  rw [String.toList_append, ← List.cons_append]
  refine List.isChain_append.2 ⟨h, hrest, ?_⟩
  intro a _ b hb hboth
  exact hfront b hb ⟨rfl, hboth.2⟩

theorem noRepeat_of_notMem (h : c ∉ text.toList) : NoRepeat c text := by
  apply List.Pairwise.isChain
  refine List.pairwise_cons.2 ⟨?_, List.pairwise_of_forall_mem_list ?_⟩
  · rintro b hb ⟨-, rfl⟩
    exact h hb
  · rintro a - b hb ⟨-, rfl⟩
    exact h hb

theorem noRepeat_toString (hdigit : ¬c.isDigit) (n : Nat) : NoRepeat c (toString n) :=
  noRepeat_of_notMem (notMem_toString_nat hdigit n)

theorem NoRepeat.not_isInfix (h : NoRepeat c text) : ¬[c, c] <:+: text.toList := by
  intro htwice
  have hchain := h.infix (htwice.trans (List.suffix_cons c text.toList).isInfix)
  simp at hchain

end Text

/-! ## 2. Reports -/

open Text

theorem RecordSize.noRepeat_display (size : RecordSize) : NoRepeat 'e' size.display := by
  unfold display
  repeat' with_reducible apply NoRepeat.append
  all_goals simp +decide only [noRepeat_toString]

theorem Spill.Prediction.noRepeat_display (prediction : Prediction) :
    NoRepeat 'e' prediction.display := by
  unfold display
  repeat' with_reducible apply NoRepeat.append
  all_goals simp +decide only [noRepeat_toString]

theorem Merge.Pass.noRepeat_display (pass : Pass) : NoRepeat 'e' pass.display := by
  unfold display
  repeat' with_reducible apply NoRepeat.append
  all_goals simp +decide only [noRepeat_toString]

theorem Merge.Policy.noRepeat_name (policy : Policy) : NoRepeat 'e' policy.name := by
  cases policy <;> decide

theorem Merge.Trace.noRepeat_display (trace : Trace) : NoRepeat 'e' trace.display := by
  have hlines : ∀ (passes : List Pass) (text : String), NoRepeat 'e' text →
      NoRepeat 'e' (passes.foldl (fun text pass => text ++ "  " ++ pass.display ++ "\n") text) := by
    intro passes
    induction passes with
    | nil =>
      intro text htext
      exact htext
    | cons pass passes ih =>
      intro text htext
      apply ih
      exact ((htext.append (by decide)).append pass.noRepeat_display).append (by decide)
  apply hlines
  repeat' with_reducible apply NoRepeat.append
  · exact trace.policy.noRepeat_name
  all_goals simp +decide only [noRepeat_toString]

/-- A plan reports that no merge is needed just if its merge has no passes. -/
theorem Plan.says_noMergeNeeded_iff (plan : Plan) :
    "no merge needed".toList <:+: plan.display.toList ↔ plan.merge.isEmpty := by
  let head := s!"records: {plan.workload.records.toNat}\n" ++
    s!"record size: {plan.recordSize.display}\n" ++ s!"{plan.spill.display}\n"
  cases hempty : plan.merge.isEmpty with
  | true =>
    have hdisplay : plan.display = head ++ "no merge needed\n" := by
      rw [display, if_pos hempty]
    have hline : "no merge needed\n".toList = "no merge needed".toList ++ ['\n'] := rfl
    rw [hdisplay, String.toList_append, hline, ← List.append_assoc]
    exact iff_of_true ⟨_, _, rfl⟩ rfl
  | false =>
    have hdisplay : plan.display = head ++ plan.merge.display := by
      rw [display, if_neg (by simp [hempty])]
    have hrecords : NoRepeat 'e' s!"records: {plan.workload.records.toNat}\n" :=
      .append (.append (by decide) (noRepeat_toString (by decide) _)) (by decide)
    have hsize : NoRepeat 'e' s!"record size: {plan.recordSize.display}\n" :=
      .append (.append (by decide) plan.recordSize.noRepeat_display) (by decide)
    have hspill : NoRepeat 'e' s!"{plan.spill.display}\n" :=
      .append plan.spill.noRepeat_display (by decide)
    have hnone := (((hrecords.append hsize).append hspill).append
      plan.merge.noRepeat_display).not_isInfix
    have htwice : ['e', 'e'] <:+: "no merge needed".toList :=
      ⟨"no merge n".toList, "ded".toList, rfl⟩
    rw [hdisplay]
    exact iff_of_false (fun h => hnone (htwice.trans h)) Bool.false_ne_true

end ExternalSort
