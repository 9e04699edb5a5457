import ExternalSort.CommandLine.Invocation
import ExternalSort.Proofs.Settings.Properties
import ExternalSort.Proofs.Settings.Validation

/-!
# The layers of the settings

Settings come in three layers: the defaults, the properties, and the flags that stand for
one setting each. `Flags.IsCombined` looks through them from above: a flag comes before
all properties, and a later property before an earlier one.

`settings_layered` says that flags stand for just these settings, if they are valid. What
a layer above covers is not looked at then, whether it is valid or not. But each property
is read, so a fault in one of them shows even where it is covered.
-/

namespace ExternalSort.CommandLine.Flags

variable {flags : Flags} {log : Log}

/-- The value of the flag for a setting. -/
def given? (flags : Flags) : (setting : Setting) → Option setting.Value
  | .sortBufferMb => flags.sortBufferMb
  | .spillPercent => flags.spillPercent
  | .sortFactor => flags.sortFactor
  | .partitions => flags.partitions

/-- Each setting has the value of its flag, or else the value that the properties gave it
last, or else the default. The policy has no properties. -/
structure IsCombined (flags : Flags) (settings : Settings) : Prop where
  get_eq (setting : Setting) :
    settings.get setting = (flags.given? setting).getD
      ((setting.lastGiven? flags.properties).getD (({} : Settings).get setting))
  mergePolicy_eq : settings.mergePolicy = flags.mergePolicy.getD ({} : Settings).mergePolicy

theorem get_replaceIn (flags : Flags) (settings : Settings) (setting : Setting) :
    (flags.replaceIn settings).get setting
      = (flags.given? setting).getD (settings.get setting) := by
  cases setting <;> rfl

theorem isCombined_replaceIn {edited : Settings}
    (h : Settings.IsEdited {} flags.properties edited) :
    flags.IsCombined (flags.replaceIn edited) where
  get_eq setting := by
    rw [get_replaceIn, h.get_eq]
  mergePolicy_eq := congrArg flags.mergePolicy.getD h.mergePolicy_eq

theorem settings_of_fault {edited : Settings} {fault : SettingsError}
    (h : (Logged.after (({} : Settings).applyPairs flags.properties) log).1
      = ⟨edited, some fault⟩) :
    (Attempt.after flags.settings log).1 = .error fault := by
  have hedited : ((({} : Settings).applyPairs flags.properties).run log).1
      = ⟨edited, some fault⟩ := h
  unfold settings
  rw [Attempt.after_bind, Attempt.after_liftState, hedited]
  rfl

/-- The flags take their places in what the properties leave, and only what comes of it is
checked. -/
theorem settings_of_edited {edited : Settings}
    (h : (Logged.after (({} : Settings).applyPairs flags.properties) log).1 = ⟨edited, none⟩) :
    (Attempt.after flags.settings log).1
      = (flags.replaceIn edited).validate.map fun _ => flags.replaceIn edited := by
  have hedited : ((({} : Settings).applyPairs flags.properties).run log).1 = ⟨edited, none⟩ := h
  unfold settings
  rw [Attempt.after_bind, Attempt.after_liftState, hedited]
  simp only
  cases (flags.replaceIn edited).validate <;> rfl

/-- The first property with a fault is reported, whatever flags there are. Without one, the
settings are those that the layers come to, and they are given out if they are valid. -/
theorem settings_layered (flags : Flags) (log : Log) :
    let outcome := (Attempt.after flags.settings log).1
    (∀ earlier pair later fault, flags.properties = earlier ++ pair :: later →
      (∀ good ∈ earlier, ∀ fault, ¬PairFault good fault) → PairFault pair fault →
      outcome = .error fault) ∧
    ((∀ pair ∈ flags.properties, ∀ fault, ¬PairFault pair fault) →
      ∃ combined, flags.IsCombined combined ∧
        outcome = combined.validate.map fun _ => combined) := by
  intro outcome
  constructor
  · intro earlier pair later fault hproperties hgood hfault
    obtain ⟨edited, -, hedited⟩ := Settings.applyPairs_of_fault hgood hfault {} later log
    rw [← hproperties] at hedited
    exact settings_of_fault hedited
  · intro hgood
    obtain ⟨edited, hvalues, hedited⟩ := Settings.applyPairs_of_good hgood {} log
    exact ⟨flags.replaceIn edited, isCombined_replaceIn hvalues, settings_of_edited hedited⟩

/-- A factor of zero does no harm below a later property, nor do zero partitions below a
flag. But a property must be a number also below a flag. -/
theorem settings_layered_covered :
    (Attempt.after (settings
        { properties := ["mapreduce.job.reduces=many"], partitions := some 4 }) #[]).1
      = .error (.badValue "mapreduce.job.reduces" "many" (.numeral .invalidDigit)) ∧
    ∃ combined,
      (Attempt.after (settings
        { properties := ["mapreduce.task.io.sort.factor=0", "mapreduce.job.reduces=0",
            "mapreduce.task.io.sort.factor = 3"], partitions := some 4 }) #[]).1 = .ok combined ∧
      combined.sortFactor = 3 ∧ combined.partitions = 4 := by
  let flags : Flags :=
    { properties := ["mapreduce.task.io.sort.factor=0", "mapreduce.job.reduces=0",
        "mapreduce.task.io.sort.factor = 3"], partitions := some 4 }
  have hzeroFactor : Property.read "mapreduce.task.io.sort.factor=0"
      = .ok ⟨Setting.sortFactor.key, "0"⟩ := rfl
  have hzeroPartitions : Property.read "mapreduce.job.reduces=0"
      = .ok ⟨Setting.partitions.key, "0"⟩ := rfl
  have hfactor : Property.read "mapreduce.task.io.sort.factor = 3"
      = .ok ⟨Setting.sortFactor.key, " 3"⟩ := rfl
  have hmany : Property.read "mapreduce.job.reduces=many"
      = .ok ⟨Setting.partitions.key, "many"⟩ := rfl
  have hbad : Setting.partitions.read (Text.trim "many") = .error (.numeral .invalidDigit) := rfl
  have hgood : ∀ pair ∈ flags.properties, ∀ fault, ¬PairFault pair fault := by
    intro pair hpair
    simp only [flags, List.mem_cons, List.not_mem_nil, or_false] at hpair
    obtain rfl | rfl | rfl := hpair
    · exact not_pairFault hzeroFactor rfl (rfl : Setting.sortFactor.read (Text.trim "0") = .ok 0)
    · exact not_pairFault hzeroPartitions rfl
        (rfl : Setting.partitions.read (Text.trim "0") = .ok 0)
    · exact not_pairFault hfactor rfl (rfl : Setting.sortFactor.read (Text.trim " 3") = .ok 3)
  obtain ⟨hfirst, -⟩ :=
    settings_layered { properties := ["mapreduce.job.reduces=many"], partitions := some 4 } #[]
  obtain ⟨-, hlayers⟩ := settings_layered flags #[]
  obtain ⟨combined, hcombined, houtcome⟩ := hlayers hgood
  have hmegabytes : combined.sortBufferMb = 100 := hcombined.get_eq .sortBufferMb
  have hpercent : combined.spillPercent = ⟨0x3fe999999999999a⟩ := hcombined.get_eq .spillPercent
  have hsegments : combined.sortFactor = 3 := hcombined.get_eq .sortFactor
  have hpartitions : combined.partitions = 4 := hcombined.get_eq .partitions
  have hvalid : combined.validate = .ok () := by
    apply Settings.validate_eq_ok_iff.2
    constructor
    · rw [hmegabytes]
      decide
    · rw [hmegabytes]
      decide
    · rw [hpercent]
      decide
    · rw [hsegments]
      decide
    · rw [hpartitions]
      decide
  rw [hvalid] at houtcome
  exact ⟨hfirst [] _ [] _ rfl nofun (.badValue hmany rfl hbad), combined, houtcome, hsegments,
    hpartitions⟩

end ExternalSort.CommandLine.Flags
