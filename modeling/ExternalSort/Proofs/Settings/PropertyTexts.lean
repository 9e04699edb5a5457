import ExternalSort.Proofs.Settings.Properties
import ExternalSort.Proofs.Text.Blank

/-!
# The text of a property

A pair is split at its first equals sign (`Property.IsSplit`). It is a property if there is
something in front of the sign (`Property.read_eq_ok_iff`). The key is trimmed; of the value,
nothing is taken away.

What a property does depends on its trimmed texts only (`Settings.after_applyProperty_fst`).
So it does not matter whether a key and a value are applied as they are or from a pair in
which both are padded (`Property.read_lossless`).
-/

namespace ExternalSort

open Text

/-! ## 1. Splitting -/

namespace Property

variable {pair before after : String} {property : Property}

/-- The first equals sign of the pair stands between the two texts. -/
structure IsSplit (pair before after : String) : Prop where
  joined : pair = before ++ "=" ++ after
  no_sign : '=' ∉ before.toList

theorem isSplit_iff :
    IsSplit pair before after ↔ splitAtFirst? '=' pair = some (before, after) := by
  have hjoin : pair = before ++ "=" ++ after ↔
      pair.toList = before.toList ++ '=' :: after.toList := by
    rw [← String.toList_inj, String.toList_append, String.toList_append, List.append_assoc]
    rfl
  rw [splitAtFirst?_eq_some_iff, ← hjoin]
  exact ⟨fun h => ⟨h.joined, h.no_sign⟩, fun h => ⟨h.1, h.2⟩⟩

theorem exists_isSplit (h : '=' ∈ pair.toList) : ∃ before after, IsSplit pair before after := by
  cases hsplit : splitAtFirst? '=' pair with
  | none => exact absurd h (splitAtFirst?_eq_none_iff.1 hsplit)
  | some parts => exact ⟨parts.1, parts.2, isSplit_iff.2 hsplit⟩

theorem read_of_no_sign (h : '=' ∉ pair.toList) : read pair = .error (.notAPair pair) := by
  rw [read, splitAtFirst?_eq_none_iff.2 h]

theorem read_of_isBlank (h : IsSplit pair before after) (hkey : IsBlank before) :
    read pair = .error (.emptyKey pair) := by
  rw [read, isSplit_iff.1 h]
  exact if_pos (trim_eq_empty_iff.2 hkey)

theorem read_of_not_isBlank (h : IsSplit pair before after) (hkey : ¬IsBlank before) :
    read pair = .ok ⟨trim before, after⟩ := by
  rw [read, isSplit_iff.1 h]
  exact if_neg (mt trim_eq_empty_iff.1 hkey)

theorem read_eq_ok_iff :
    read pair = .ok property ↔
      ∃ before, IsSplit pair before property.value ∧ ¬IsBlank before ∧
        IsTrimmed before property.key := by
  constructor
  · intro hread
    by_cases hsign : '=' ∈ pair.toList
    · obtain ⟨before, after, hsplit⟩ := exists_isSplit hsign
      by_cases hkey : IsBlank before
      · rw [read_of_isBlank hsplit hkey] at hread
        cases hread
      · rw [read_of_not_isBlank hsplit hkey] at hread
        cases hread
        exact ⟨before, hsplit, hkey, isTrimmed_iff.2 rfl⟩
    · rw [read_of_no_sign hsign] at hread
      cases hread
  · rintro ⟨before, hsplit, hkey, htrimmed⟩
    rw [read_of_not_isBlank hsplit hkey, ← isTrimmed_iff.1 htrimmed]

theorem read_padded {key : String} (hpair : pair = before ++ "=" ++ after)
    (hbefore : IsPadded before key) (hsign : '=' ∉ key.toList) (hkey : ¬IsBlank key) :
    read pair = .ok ⟨trim key, after⟩ := by
  have hsplit : IsSplit pair before after :=
    ⟨hpair, mt (hbefore.mem_iff (by decide)).1 hsign⟩
  rw [read_of_not_isBlank hsplit (mt hbefore.isBlank_iff.1 hkey), hbefore.trim_eq]

end Property

/-! ## 2. Applying -/

namespace Settings

/-- The settings with one changed that is known by its key, or else as they are. -/
def assignTo (settings : Settings) (key value : String) : Except ValueError Settings :=
  match Setting.ofKey? key with
  | none => .ok settings
  | some setting => settings.assign setting value

theorem after_applyProperty_fst (settings : Settings) (property : Property) (log : Log) :
    (Attempt.after (settings.applyProperty property) log).1
      = (settings.assignTo (trim property.key) (trim property.value)).mapError
          (.badValue property.key (trim property.value)) := by
  unfold applyProperty assignTo
  cases hsetting : Setting.ofKey? (trim property.key) with
  | none =>
    simp only [hsetting]
    rfl
  | some setting =>
    cases hassigned : settings.assign setting (trim property.value) <;>
    · simp only [hsetting, hassigned]
      rfl

theorem after_applyPairs_singleton_fst {pair : String} {property : Property}
    (h : Property.read pair = .ok property) (settings : Settings) (log : Log) :
    (Logged.after (settings.applyPairs [pair]) log).1
      = match settings.assignTo property.key (trim property.value) with
        | .ok changed => ⟨changed, none⟩
        | .error cause =>
          ⟨settings, some (.badValue property.key (trim property.value) cause)⟩ := by
  have hpair : Attempt.after (settings.applyPair pair) log
      = Attempt.after (settings.applyProperty property) log := by
    rw [applyPair, Attempt.after_bind, Attempt.after_liftExcept, h]
  have houtcome := after_applyProperty_fst settings property log
  rw [after_applyPairs_cons, hpair]
  rcases hrun : Attempt.after (settings.applyProperty property) log with ⟨outcome, log'⟩
  rw [hrun] at houtcome
  obtain rfl : outcome = _ := houtcome
  rw [trim_key h]
  cases settings.assignTo property.key (trim property.value) <;> rfl

end Settings

/-! ## 3. Padding -/

/-- A pair is a property exactly if it has an equals sign and what stands in front of the
first one is not blank. This, trimmed, is the key, and everything behind the sign is the
value. A pair of a padded key and a padded value does what the key and the value do by
themselves: it leaves the same settings, or it fails for the same cause and changes nothing. -/
theorem Property.read_lossless (pair : String) :
    (∀ property, read pair = .ok property ↔
      ∃ before, IsSplit pair before property.value ∧ ¬IsBlank before ∧
        IsTrimmed before property.key) ∧
    ((∃ property, read pair = .ok property) ↔
      ∃ before after, IsSplit pair before after ∧ ¬IsBlank before) ∧
    ∀ before key after value, pair = before ++ "=" ++ after → IsPadded before key →
      IsPadded after value → '=' ∉ key.toList → ¬IsBlank key →
      ∀ (settings : Settings) (log : Log),
        let direct := (Attempt.after (settings.applyProperty ⟨key, value⟩) log).1
        let edited := (Logged.after (settings.applyPairs [pair]) log).1
        (∀ changed, direct = .ok changed → edited = ⟨changed, none⟩) ∧
        ∀ fault, direct = .error fault → ∃ cause, fault = .badValue key (trim value) cause ∧
          edited = ⟨settings, some (.badValue (trim key) (trim value) cause)⟩ := by
  refine ⟨fun property => read_eq_ok_iff, ?_, ?_⟩
  · constructor
    · rintro ⟨property, hread⟩
      obtain ⟨before, hsplit, hkey, -⟩ := read_eq_ok_iff.1 hread
      exact ⟨before, property.value, hsplit, hkey⟩
    · rintro ⟨before, after, hsplit, hkey⟩
      exact ⟨_, read_of_not_isBlank hsplit hkey⟩
  · intro before key after value hpair hbefore hafter hsign hkey settings log direct edited
    have hread := read_padded hpair hbefore hsign hkey
    have hdirect := settings.after_applyProperty_fst ⟨key, value⟩ log
    have hedited := Settings.after_applyPairs_singleton_fst hread settings log
    rw [hafter.trim_eq] at hedited
    cases hassigned : settings.assignTo (trim key) (trim value) with
    | ok changed =>
      rw [hassigned] at hdirect hedited
      refine ⟨?_, ?_⟩
      · intro changed' hchanged
        cases hdirect.symm.trans hchanged
        exact hedited
      · intro fault hfault
        cases hdirect.symm.trans hfault
    | error cause =>
      rw [hassigned] at hdirect hedited
      refine ⟨?_, ?_⟩
      · intro changed hchanged
        cases hdirect.symm.trans hchanged
      · intro fault hfault
        cases hdirect.symm.trans hfault
        exact ⟨cause, rfl, hedited⟩

/-- The second sign belongs to the value. The padded pairs of a good and of a bad value do what
the two values do. -/
theorem Property.read_lossless_reduces :
    let outcome (pair : String) := (Logged.after (({} : Settings).applyPairs [pair]) #[]).1
    read " color = a=b " = .ok ⟨"color", " a=b "⟩ ∧
    (¬∃ property, read "\t =b" = .ok property) ∧
    outcome "\tmapreduce.job.reduces = 4 " = ⟨{ partitions := 4 }, none⟩ ∧
    outcome " mapreduce.job.reduces =\t4=4"
      = ⟨{}, some (.badValue "mapreduce.job.reduces" "4=4" (.numeral .invalidDigit))⟩ := by
  intro outcome
  have hspace : IsBlank " " := by decide
  have htab : IsBlank "\t" := by decide
  have hempty : IsBlank "" := by decide
  obtain ⟨hread, -, -⟩ := read_lossless " color = a=b "
  obtain ⟨-, hsuccess, -⟩ := read_lossless "\t =b"
  obtain ⟨-, -, hgood⟩ := read_lossless "\tmapreduce.job.reduces = 4 "
  obtain ⟨-, -, hbad⟩ := read_lossless " mapreduce.job.reduces =\t4=4"
  refine ⟨?_, ?_, ?_, ?_⟩
  · exact (hread ⟨"color", " a=b "⟩).2
      ⟨" color ", ⟨by decide, by decide⟩, by decide, isTrimmed_iff.2 (by decide)⟩
  · rw [hsuccess]
    rintro ⟨before, after, hsplit, hkey⟩
    have hfound : splitAtFirst? '=' "\t =b" = some ("\t ", "b") := by decide
    rw [isSplit_iff, hfound] at hsplit
    cases hsplit
    exact hkey (by decide)
  · obtain ⟨happlied, -⟩ := hgood "\tmapreduce.job.reduces " "mapreduce.job.reduces" " 4 " "4"
      (by decide) ⟨"\t", " ", htab, hspace, by decide⟩ ⟨" ", " ", hspace, hspace, by decide⟩
      (by decide) (by decide) {} #[]
    exact happlied _ rfl
  · obtain ⟨-, hfailed⟩ := hbad " mapreduce.job.reduces " "mapreduce.job.reduces" "\t4=4" "4=4"
      (by decide) ⟨" ", " ", hspace, hspace, by decide⟩ ⟨"\t", "", htab, hempty, by decide⟩
      (by decide) (by decide) {} #[]
    obtain ⟨cause, hcause, hedited⟩ := hfailed _ rfl
    cases hcause
    exact hedited

end ExternalSort
