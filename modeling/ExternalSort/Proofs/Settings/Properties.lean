import ExternalSort.Settings.Property

/-!
# What properties change

The settings that have a key are a family: each has values of its own type
(`Setting.Value`), which are read from text, looked up in the settings and replaced there.
A pair either has a fault, whatever the settings are (`PairFault`), or it can be read
(`IsReadable`) and gives a value to at most one setting (`Setting.given?`).

Results:
1. `Settings.assign_eq`: a setting is assigned by reading a value and replacing the old
   one, and no other setting changes (`Settings.get_set`, `Settings.get_set_of_ne`).
2. `Settings.applyPair_of_fault`, `Settings.applyPair_of_good`: what one pair does.
3. `Settings.applyPairs_of_good`: pairs in order leave each setting with the value that it
   was given last. `Settings.applyPairs_of_fault`: the first pair with a fault ends this.
-/

namespace ExternalSort

/-! ## 1. Values -/

namespace Setting

/-- The values of a setting. -/
abbrev Value : Setting → Type
  | .sortBufferMb | .sortFactor => UInt64
  | .spillPercent => Binary64
  | .partitions => UInt32

/-- Reads a value of a setting. -/
def read : (setting : Setting) → String → Except ValueError setting.Value
  | .sortBufferMb, text | .sortFactor, text => (Numeral.readWord64 text).mapError .numeral
  | .spillPercent, text => (Binary64.read text).mapError .number
  | .partitions, text => (Numeral.readWord32 text).mapError .numeral

end Setting

namespace Settings

variable {settings : Settings} {setting other : Setting}

/-- The value of a setting. -/
def get (settings : Settings) : (setting : Setting) → setting.Value
  | .sortBufferMb => settings.sortBufferMb
  | .spillPercent => settings.spillPercent
  | .sortFactor => settings.sortFactor
  | .partitions => settings.partitions

/-- The settings with another value of one of them. -/
def set (settings : Settings) : (setting : Setting) → setting.Value → Settings
  | .sortBufferMb, value => { settings with sortBufferMb := value }
  | .spillPercent, value => { settings with spillPercent := value }
  | .sortFactor, value => { settings with sortFactor := value }
  | .partitions, value => { settings with partitions := value }

@[simp] theorem get_set (settings : Settings) (setting : Setting) (value : setting.Value) :
    (settings.set setting value).get setting = value := by
  cases setting <;> rfl

theorem get_set_of_ne (h : other ≠ setting) (value : setting.Value) :
    (settings.set setting value).get other = settings.get other := by
  cases setting <;> cases other <;> first | rfl | exact absurd rfl h

@[simp] theorem mergePolicy_set (settings : Settings) (setting : Setting)
    (value : setting.Value) : (settings.set setting value).mergePolicy = settings.mergePolicy := by
  cases setting <;> rfl

theorem ext_get {settings' : Settings}
    (h : ∀ setting, settings.get setting = settings'.get setting)
    (hpolicy : settings.mergePolicy = settings'.mergePolicy) : settings = settings' := by
  cases settings
  cases settings'
  rw [mk.injEq]
  exact ⟨h .sortBufferMb, h .spillPercent, h .sortFactor, h .partitions, hpolicy⟩

theorem assign_eq (settings : Settings) (setting : Setting) (text : String) :
    settings.assign setting text = (setting.read text).map (settings.set setting) := by
  cases setting with
  | sortBufferMb | sortFactor =>
    rw [assign, Setting.read]
    cases Numeral.readWord64 text <;> rfl
  | spillPercent =>
    rw [assign, Setting.read]
    cases Binary64.read text <;> rfl
  | partitions =>
    rw [assign, Setting.read]
    cases Numeral.readWord32 text <;> rfl

end Settings

/-! ## 2. One pair -/

/-- What is wrong with a pair: it is no property, or it has a text that is no value of the
setting that it names. -/
inductive PairFault (pair : String) : SettingsError → Prop
  | malformed {fault : SettingsError} : Property.read pair = .error fault → PairFault pair fault
  | badValue {property : Property} {setting : Setting} {cause : ValueError} :
      Property.read pair = .ok property → property.key = setting.key →
      setting.read (Text.trim property.value) = .error cause →
      PairFault pair (.badValue property.key (Text.trim property.value) cause)

/-- The pair is a property, and its text is a value of the setting that it names, if it
names one. -/
def IsReadable (pair : String) : Prop :=
  ∃ property, Property.read pair = .ok property ∧
    ∀ setting : Setting, property.key = setting.key →
      ∃ value, setting.read (Text.trim property.value) = .ok value

theorem isReadable_iff {pair : String} : IsReadable pair ↔ ∀ fault, ¬PairFault pair fault := by
  constructor
  · rintro ⟨property, hread, hvalues⟩ fault hfault
    cases hfault with
    | malformed hmalformed =>
      rw [hread] at hmalformed
      cases hmalformed
    | badValue hother hkey hbad =>
      rw [hread] at hother
      cases hother
      obtain ⟨value, hvalue⟩ := hvalues _ hkey
      rw [hvalue] at hbad
      cases hbad
  · intro h
    cases hread : Property.read pair with
    | error fault => exact absurd (.malformed hread) (h fault)
    | ok property =>
      refine ⟨property, hread, ?_⟩
      intro setting hkey
      cases hvalue : setting.read (Text.trim property.value) with
      | error cause => exact absurd (.badValue hread hkey hvalue) (h _)
      | ok value => exact ⟨value, rfl⟩

theorem isReadable_of_value {pair : String} {property : Property} {setting : Setting}
    {value : setting.Value} (h : Property.read pair = .ok property)
    (hkey : property.key = setting.key)
    (hvalue : setting.read (Text.trim property.value) = .ok value) : IsReadable pair := by
  refine ⟨property, h, ?_⟩
  intro other hother
  obtain rfl := Setting.eq_of_key_eq (hkey.symm.trans hother)
  exact ⟨value, hvalue⟩

theorem isReadable_of_unknown {pair : String} {property : Property}
    (h : Property.read pair = .ok property) (hunknown : Setting.ofKey? property.key = none) :
    IsReadable pair :=
  ⟨property, h, fun setting hkey => absurd hkey (Setting.key_ne_of_ofKey? hunknown setting)⟩

/-- A property has no fault if it has a value of the setting that it names. -/
theorem not_pairFault {pair : String} {property : Property} {setting : Setting}
    {value : setting.Value} (h : Property.read pair = .ok property)
    (hkey : property.key = setting.key)
    (hvalue : setting.read (Text.trim property.value) = .ok value) (fault : SettingsError) :
    ¬PairFault pair fault :=
  isReadable_iff.1 (isReadable_of_value h hkey hvalue) fault

namespace Setting

/-- The value that a pair gives to a setting, if it names this setting. -/
def given? (setting : Setting) (pair : String) : Option setting.Value :=
  match Property.read pair with
  | .error _ => none
  | .ok property =>
    if property.key = setting.key then (setting.read (Text.trim property.value)).toOption
    else none

/-- The value that a setting is given last. -/
def lastGiven? (setting : Setting) (pairs : List String) : Option setting.Value :=
  (pairs.filterMap setting.given?).getLast?

end Setting

namespace Settings

variable {settings changed : Settings} {pair : String} {pairs : List String} {log : Log}

/-- Each setting has the value that it was given last. A setting that was given none, and
the policy, are as before. -/
structure IsEdited (settings : Settings) (pairs : List String) (changed : Settings) : Prop where
  get_eq (setting : Setting) :
    changed.get setting = (setting.lastGiven? pairs).getD (settings.get setting)
  mergePolicy_eq : changed.mergePolicy = settings.mergePolicy

theorem trim_key {property : Property} (h : Property.read pair = .ok property) :
    Text.trim property.key = property.key := by
  unfold Property.read at h
  split at h
  · cases h
  · simp only at h
    split at h
    · cases h
    · cases h
      exact Text.trim_trim _

theorem ofKey?_trim_key {property : Property} {setting : Setting}
    (h : Property.read pair = .ok property) (hkey : property.key = setting.key) :
    Setting.ofKey? (Text.trim property.key) = some setting := by
  rw [trim_key h, hkey, Setting.ofKey?_key]

/-- A pair with a fault changes nothing and names its fault. -/
theorem applyPair_of_fault {fault : SettingsError} (h : PairFault pair fault)
    (settings : Settings) (log : Log) :
    (Attempt.after (settings.applyPair pair) log).1 = .error fault := by
  unfold applyPair
  rw [Attempt.after_bind, Attempt.after_liftExcept]
  cases h with
  | malformed hread => rw [hread]
  | badValue hread hkey hvalue =>
    simp only [hread, applyProperty, ofKey?_trim_key hread hkey, assign_eq, hvalue]
    rfl

theorem given?_of_read {property : Property} (h : Property.read pair = .ok property)
    (setting : Setting) :
    setting.given? pair = if property.key = setting.key then
      (setting.read (Text.trim property.value)).toOption else none := by
  rw [Setting.given?, h]

/-- Only the setting that is named has another value, namely the one that it is given. -/
theorem get_set_given? {property : Property} {setting : Setting} {value : setting.Value}
    (h : Property.read pair = .ok property) (hkey : property.key = setting.key)
    (hvalue : setting.read (Text.trim property.value) = .ok value) (settings : Settings)
    (other : Setting) :
    (settings.set setting value).get other = (other.given? pair).getD (settings.get other) := by
  rw [given?_of_read h]
  by_cases hother : other = setting
  · subst hother
    rw [if_pos hkey, hvalue, get_set]
    rfl
  · have hkeys : property.key ≠ other.key := by
      intro hsame
      exact hother (Setting.eq_of_key_eq (hsame.symm.trans hkey))
    rw [if_neg hkeys, get_set_of_ne hother]
    rfl

/-- A pair without a fault gives a value to the setting that it names, if there is one. -/
theorem applyPair_of_good (h : ∀ fault, ¬PairFault pair fault) (settings : Settings)
    (log : Log) :
    ∃ changed, (Attempt.after (settings.applyPair pair) log).1 = .ok changed ∧
      IsEdited settings [pair] changed := by
  have hlast : ∀ setting : Setting, setting.lastGiven? [pair] = setting.given? pair := by
    intro setting
    cases hgiven : setting.given? pair <;> simp [Setting.lastGiven?, hgiven]
  obtain ⟨property, hread, hvalues⟩ := isReadable_iff.2 h
  unfold applyPair
  rw [Attempt.after_bind, Attempt.after_liftExcept]
  cases hsetting : Setting.ofKey? property.key with
  | none =>
    simp only [hread, applyProperty, trim_key hread, hsetting]
    refine ⟨settings, rfl, ?_, rfl⟩
    intro setting
    rw [hlast, given?_of_read hread, if_neg (Setting.key_ne_of_ofKey? hsetting setting)]
    rfl
  | some setting =>
    have hkey : property.key = setting.key := (Setting.key_of_ofKey? hsetting).symm
    obtain ⟨value, hvalue⟩ := hvalues setting hkey
    simp only [hread, applyProperty, trim_key hread, hsetting, assign_eq, hvalue]
    refine ⟨settings.set setting value, rfl, ?_, mergePolicy_set settings setting value⟩
    intro other
    rw [hlast, get_set_given? hread hkey hvalue]

/-! ## 3. Pairs in order -/

theorem IsEdited.nil (settings : Settings) : IsEdited settings [] settings :=
  ⟨fun _ => rfl, rfl⟩

theorem IsEdited.trans {pairs' : List String} {last : Settings}
    (h : IsEdited settings pairs changed) (h' : IsEdited changed pairs' last) :
    IsEdited settings (pairs ++ pairs') last where
  get_eq setting := by
    rw [h'.get_eq, h.get_eq, Setting.lastGiven?, Setting.lastGiven?, Setting.lastGiven?,
      List.filterMap_append, List.getLast?_append]
    cases (pairs'.filterMap setting.given?).getLast? <;> rfl
  mergePolicy_eq := h'.mergePolicy_eq.trans h.mergePolicy_eq

theorem after_applyPairs_cons (settings : Settings) (pair : String) (pairs : List String)
    (log : Log) :
    Logged.after (settings.applyPairs (pair :: pairs)) log
      = match Attempt.after (settings.applyPair pair) log with
        | (.ok changed, log) => Logged.after (changed.applyPairs pairs) log
        | (.error fault, log) => (⟨settings, some fault⟩, log) := by
  have hrun : Logged.after (settings.applyPair pair).run log
      = Attempt.after (settings.applyPair pair) log := rfl
  rw [applyPairs, Logged.after_bind, hrun]
  rcases Attempt.after (settings.applyPair pair) log with ⟨_ | _, log'⟩ <;> rfl

/-- Pairs without a fault leave each setting with the value it was given last, and the
pairs behind them go on from there. -/
theorem applyPairs_append (h : ∀ pair ∈ pairs, ∀ fault, ¬PairFault pair fault)
    (settings : Settings) (rest : List String) (log : Log) :
    ∃ changed log', IsEdited settings pairs changed ∧
      Logged.after (settings.applyPairs (pairs ++ rest)) log
        = Logged.after (changed.applyPairs rest) log' := by
  -- The settings change on the way, so the induction is for all of them.
  induction pairs generalizing settings log with
  | nil => exact ⟨settings, log, .nil settings, rfl⟩
  | cons pair pairs ih =>
    obtain ⟨next, hnext, hedited⟩ := applyPair_of_good (h pair List.mem_cons_self) settings log
    obtain ⟨changed, log', hchanged, hlater⟩ :=
      ih (fun later hlater => h later (List.mem_cons_of_mem _ hlater)) next
        (Attempt.after (settings.applyPair pair) log).2
    have hpair : Attempt.after (settings.applyPair pair) log
        = (.ok next, (Attempt.after (settings.applyPair pair) log).2) := Prod.ext hnext rfl
    refine ⟨changed, log', hedited.trans hchanged, ?_⟩
    rw [List.cons_append, after_applyPairs_cons, hpair]
    exact hlater

/-- The first pair with a fault ends the list. The settings are those that the pairs before
it leave. -/
theorem applyPairs_of_fault (h : ∀ pair ∈ pairs, ∀ fault, ¬PairFault pair fault)
    {fault : SettingsError} (hfault : PairFault pair fault) (settings : Settings)
    (rest : List String) (log : Log) :
    ∃ changed, IsEdited settings pairs changed ∧
      (Logged.after (settings.applyPairs (pairs ++ pair :: rest)) log).1
        = ⟨changed, some fault⟩ := by
  obtain ⟨changed, log', hedited, hrun⟩ := applyPairs_append h settings (pair :: rest) log
  have hpair : Attempt.after (changed.applyPair pair) log'
      = (.error fault, (Attempt.after (changed.applyPair pair) log').2) :=
    Prod.ext (applyPair_of_fault hfault changed log') rfl
  refine ⟨changed, hedited, ?_⟩
  rw [hrun, after_applyPairs_cons, hpair]

theorem applyPairs_of_good (h : ∀ pair ∈ pairs, ∀ fault, ¬PairFault pair fault)
    (settings : Settings) (log : Log) :
    ∃ changed, IsEdited settings pairs changed ∧
      (Logged.after (settings.applyPairs pairs) log).1 = ⟨changed, none⟩ := by
  obtain ⟨changed, log', hedited, hrun⟩ := applyPairs_append h settings [] log
  rw [List.append_nil] at hrun
  exact ⟨changed, hedited, congrArg Prod.fst hrun⟩

end Settings

end ExternalSort
