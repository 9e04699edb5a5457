import ExternalSort.CommandLine.Report

/-!
# How printing ends

`Ends attempt outcome text`: wherever it starts, the attempt has this outcome and prints just
this text. There is a rule for each thing that a command does. A question or a computation
prints nothing, whether it succeeds or fails; what is printed stands in front of what comes
after it. So the text of a command that fails is made of the prints in front of the step that
failed, and of nothing else.
-/

namespace ExternalSort.CommandLine

variable {α : Type} {attempt : Printing Unit} {next : α → Printing Unit}
variable {outcome : Except ModelError Unit} {text : String} {error : ModelError}

/-- Wherever it starts, the attempt has this outcome and prints this text. -/
def Ends (attempt : Printing Unit) (outcome : Except ModelError Unit) (text : String) : Prop :=
  ∀ console, (Attempt.after attempt console).1 = outcome ∧
    (Attempt.after attempt console).2.printed = console.printed ++ text

namespace Ends

theorem print (text : String) : Ends (print text) (.ok ()) text :=
  fun _ => ⟨rfl, rfl⟩

theorem forM_print (line : α → String) (xs : List α) :
    Ends (xs.forM fun x => CommandLine.print (line x)) (.ok ()) (String.join (xs.map line)) := by
  intro console
  rw [after_forM_print]
  exact ⟨rfl, rfl⟩

theorem print_bind {next : Unit → Printing Unit} (first : String)
    (h : Ends (next ()) outcome text) :
    Ends (CommandLine.print first >>= next) outcome (first ++ text) := by
  intro console
  rw [Attempt.after_bind, after_print]
  obtain ⟨houtcome, htext⟩ := h { console with printed := console.printed ++ first }
  exact ⟨houtcome, htext.trans String.append_assoc⟩

theorem print_bind_last {next : Unit → Printing Unit} (last : String)
    (h : Ends (next ()) outcome "") : Ends (CommandLine.print last >>= next) outcome last := by
  have hends := print_bind last h
  rwa [String.append_empty] at hends

variable {question : Reported ModelError α} {answer : α}

theorem ask_bind (hanswer : ∀ log, (Attempt.after question log).1 = .ok answer)
    (h : Ends (next answer) outcome text) : Ends (ask question >>= next) outcome text := by
  intro console
  rw [Attempt.after_bind, after_ask, hanswer]
  exact h { console with log := (Attempt.after question console.log).2 }

theorem ask_bind_error (herror : ∀ log, (Attempt.after question log).1 = .error error) :
    Ends (ask question >>= next) (.error error) "" := by
  intro console
  rw [Attempt.after_bind, after_ask, herror]
  exact ⟨rfl, String.append_empty.symm⟩

variable {result : Except ModelError α} {value : α}

theorem lift_bind (hvalue : result = .ok value) (h : Ends (next value) outcome text) :
    Ends (liftM result >>= next) outcome text := by
  intro console
  rw [Attempt.after_bind, Attempt.after_liftExcept, hvalue]
  exact h console

theorem lift_bind_error (herror : result = .error error) :
    Ends (liftM result >>= next) (.error error) "" := by
  intro console
  rw [Attempt.after_bind, Attempt.after_liftExcept, herror]
  exact ⟨rfl, String.append_empty.symm⟩

end Ends

end ExternalSort.CommandLine
