import ExternalSort.CommandLine.Report
import ExternalSort.Proofs.CommandLine.Layers
import ExternalSort.Proofs.Model.Plan
import ExternalSort.Proofs.Settings.PropertyLists

/-!
# Flags that have a model

Flags are accepted with the settings that their layers come to if every property can be read
and these settings are valid. They are refused for the first property that cannot be read, or
else for a bound that the settings miss; one of the two is always so
(`isAccepted_or_isRefused`). `Flags.model` gives out the model for the settings that the flags
are accepted with (`model_of_isAccepted`), or what is wrong with them (`model_of_isRefused`).
-/

namespace ExternalSort.CommandLine.Flags

variable {flags : Flags} {settings settings' : Settings} {fault : SettingsError} {log : Log}

/-- The flags stand for these settings, and there is nothing wrong with them. -/
structure IsAccepted (flags : Flags) (settings : Settings) : Prop where
  /-- Also where a later property or a flag covers it. -/
  isReadable : ∀ pair ∈ flags.properties, IsReadable pair
  isCombined : flags.IsCombined settings
  isValid : settings.IsValid

/-- What is wrong with the flags. -/
inductive IsRefused (flags : Flags) : SettingsError → Prop
  | unreadable {earlier later : List String} {pair : String} {fault : SettingsError} :
      flags.properties = earlier ++ pair :: later → (∀ good ∈ earlier, IsReadable good) →
      PairFault pair fault → IsRefused flags fault
  | invalid {settings : Settings} {fault : SettingsError} :
      (∀ pair ∈ flags.properties, IsReadable pair) → flags.IsCombined settings →
      settings.validate = .error fault → IsRefused flags fault

/-! ## 1. Settings -/

theorem IsCombined.eq (h : flags.IsCombined settings) (h' : flags.IsCombined settings') :
    settings = settings' :=
  Settings.ext_get (fun setting => (h.get_eq setting).trans (h'.get_eq setting).symm)
    (h.mergePolicy_eq.trans h'.mergePolicy_eq.symm)

theorem settings_of_unreadable {earlier later : List String} {pair : String}
    (hproperties : flags.properties = earlier ++ pair :: later)
    (hearlier : ∀ good ∈ earlier, IsReadable good) (hfault : PairFault pair fault) (log : Log) :
    (Attempt.after flags.settings log).1 = .error fault := by
  apply settings_of_fault
  rw [hproperties]
  exact Settings.applyPairs_of_unreadable hearlier hfault {} later log

/-- If all properties can be read, the settings are given out unless they are invalid. -/
theorem settings_of_isCombined (hreadable : ∀ pair ∈ flags.properties, IsReadable pair)
    (hcombined : flags.IsCombined settings) (log : Log) :
    (Attempt.after flags.settings log).1 = settings.validate.map fun _ => settings := by
  obtain ⟨edited, hedited, hrun⟩ := Settings.applyPairs_of_readable hreadable {} log
  rw [settings_of_edited hrun, (isCombined_replaceIn hedited).eq hcombined]

theorem exists_isCombined (hreadable : ∀ pair ∈ flags.properties, IsReadable pair) :
    ∃ settings, flags.IsCombined settings := by
  obtain ⟨edited, hedited, -⟩ := Settings.applyPairs_of_readable hreadable {} #[]
  exact ⟨_, isCombined_replaceIn hedited⟩

theorem settings_of_isAccepted (h : flags.IsAccepted settings) (log : Log) :
    (Attempt.after flags.settings log).1 = .ok settings := by
  rw [settings_of_isCombined h.isReadable h.isCombined, Settings.validate_eq_ok_iff.2 h.isValid]
  rfl

theorem settings_of_isRefused (h : flags.IsRefused fault) (log : Log) :
    (Attempt.after flags.settings log).1 = .error fault := by
  cases h with
  | unreadable hproperties hearlier hfault =>
    exact settings_of_unreadable hproperties hearlier hfault log
  | invalid hreadable hcombined hinvalid =>
    rw [settings_of_isCombined hreadable hcombined, hinvalid]
    rfl

theorem isAccepted_or_isRefused (flags : Flags) :
    (∃ settings, flags.IsAccepted settings) ∨ ∃ fault, flags.IsRefused fault := by
  by_cases hreadable : ∀ pair ∈ flags.properties, IsReadable pair
  · obtain ⟨settings, hcombined⟩ := exists_isCombined hreadable
    cases hvalid : settings.validate with
    | ok _ => exact .inl ⟨settings, hreadable, hcombined, Settings.validate_eq_ok_iff.1 hvalid⟩
    | error fault => exact .inr ⟨fault, .invalid hreadable hcombined hvalid⟩
  · obtain ⟨earlier, pair, later, hproperties, hearlier, hpair⟩ := exists_first_not hreadable
    obtain ⟨fault, hfault⟩ := exists_pairFault hpair
    exact .inr ⟨fault, .unreadable hproperties hearlier hfault⟩

/-! ## 2. Models -/

theorem model_of_isAccepted {model : Model} (h : flags.IsAccepted model.settings) (log : Log) :
    (Attempt.after flags.model log).1 = .ok model := by
  rw [Flags.model, Attempt.after_bind_eq_ok_iff]
  refine ⟨model.settings, ?_, Model.create_eq_ok_iff.2 rfl⟩
  rw [Attempt.after_adapt, Attempt.mapError_eq_ok_iff]
  exact settings_of_isAccepted h log

theorem model_of_isRefused (h : flags.IsRefused fault) (log : Log) :
    (Attempt.after flags.model log).1 = .error (.settings fault) := by
  rw [Flags.model, Attempt.after_bind_eq_error_iff]
  left
  rw [Attempt.after_adapt, Attempt.mapError_eq_error_iff]
  exact ⟨fault, settings_of_isRefused h log, rfl⟩

theorem IsAccepted.exists_model (h : flags.IsAccepted settings) :
    ∃ model : Model, model.settings = settings := by
  obtain ⟨accountant, haccountant⟩ := h.isValid.exists_accountant
  exact ⟨⟨settings, accountant, haccountant⟩, rfl⟩

end ExternalSort.CommandLine.Flags
