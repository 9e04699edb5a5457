import ExternalSort.Binary64.Reading
import ExternalSort.Numeral
import ExternalSort.Spill.Accountant

/-!
# Settings of a job

The settings that decide how a job sorts: the size of the sort buffer, the share
of it that fills up before a spill, the merge factor, the number of partitions
of the output, and the merge policy.

All settings but the policy are known by a key (`Setting.key`), under which they
are changed from text and named in errors. `Settings.validate` says which
settings can be worked with, and `Settings.accountant` builds the accountant for
them.
-/

namespace ExternalSort

/-! ## 1. Keys -/

/-- A setting that has a key. -/
inductive Setting where
  | sortBufferMb
  | spillPercent
  | sortFactor
  | partitions
  deriving DecidableEq, Repr

namespace Setting

/-- The key of a setting. -/
def key : Setting → String
  | .sortBufferMb => "mapreduce.task.io.sort.mb"
  | .spillPercent => "mapreduce.map.sort.spill.percent"
  | .sortFactor => "mapreduce.task.io.sort.factor"
  | .partitions => "mapreduce.job.reduces"

/-- All settings that have a key. -/
def all : List Setting := [.sortBufferMb, .spillPercent, .sortFactor, .partitions]

/-- The setting with this key. -/
def ofKey? (key : String) : Option Setting := all.find? fun setting => setting.key = key

/-- No two settings share a key. -/
@[simp] theorem ofKey?_key (setting : Setting) : ofKey? setting.key = some setting := by
  cases setting <;> decide

theorem eq_of_key_eq {setting other : Setting} (h : setting.key = other.key) : setting = other := by
  have hfound := ofKey?_key setting
  rw [h, ofKey?_key] at hfound
  exact (Option.some.inj hfound).symm

theorem key_of_ofKey? {key : String} {setting : Setting} (h : ofKey? key = some setting) :
    setting.key = key := by
  simpa using List.find?_some h

theorem key_ne_of_ofKey? {key : String} (h : ofKey? key = none) (setting : Setting) :
    key ≠ setting.key := by
  rintro rfl
  rw [ofKey?_key] at h
  cases h

end Setting

/-! ## 2. Faults -/

/-- Why a text is not the value of a setting. -/
inductive ValueError where
  | numeral (cause : NumeralError)
  | number (cause : Binary64.ReadError)
  deriving DecidableEq, Repr

/-- The text of the error. -/
def ValueError.message : ValueError → String
  | .numeral cause => cause.message
  | .number cause => cause.message

/-- The largest buffer, in megabytes, whose bytes can be counted in 64 bits. -/
def largestBufferMb : Nat := (2 ^ 64 - 1) / 2 ^ 20

/-- What is wrong with settings, or with a text that should change them. -/
inductive SettingsError where
  /-- A property has no sign between its key and its value. -/
  | notAPair (pair : String)
  /-- A property has a blank key. -/
  | emptyKey (pair : String)
  /-- A text is not a value of the setting. -/
  | badValue (key value : String) (cause : ValueError)
  | emptyBuffer
  | bufferTooLarge (megabytes : UInt64)
  | percentOutOfRange (percent : Binary64)
  | zeroFactor
  | noPartitions
  /-- No accountant can be built. -/
  | unaccountable (cause : Spill.ConfigError)
  deriving DecidableEq, Repr

namespace SettingsError

/-- The text of the error. -/
def message : SettingsError → String
  | .notAPair pair => s!"property '{pair}' is not of the form key=value"
  | .emptyKey pair => s!"property '{pair}' has an empty key"
  | .badValue key value _ => s!"invalid value '{value}' for {key}"
  | .emptyBuffer => s!"{Setting.sortBufferMb.key} must be > 0"
  | .bufferTooLarge megabytes =>
    s!"{Setting.sortBufferMb.key} = {megabytes.toNat} is too large (max {largestBufferMb})"
  | .percentOutOfRange percent =>
    s!"{Setting.spillPercent.key} = {percent.display} must be in (0, 1]"
  | .zeroFactor => s!"{Setting.sortFactor.key} must be >= 1"
  | .noPartitions => s!"{Setting.partitions.key} must be >= 1"
  | .unaccountable _ => "invalid sort buffer configuration"

/-- The text of the error behind this one. -/
def cause? : SettingsError → Option String
  | .badValue _ _ cause => some cause.message
  | .unaccountable cause => some cause.message
  | _ => none

end SettingsError

/-! ## 3. Settings -/

/-- The settings of a job, with the usual defaults. -/
structure Settings where
  /-- The size of the sort buffer in megabytes. -/
  sortBufferMb : UInt64 := 100
  /-- The share of the buffer that fills up before a spill; `0.8`. -/
  spillPercent : Binary64 := ⟨0x3fe999999999999a⟩
  /-- The largest number of segments merged in one pass. -/
  sortFactor : UInt64 := 10
  /-- The number of partitions of the output. -/
  partitions : UInt32 := 1
  /-- Where a merge has its smaller pass. -/
  mergePolicy : Merge.Policy := .remainderFirst
  deriving DecidableEq, Repr

namespace Settings

/-- The size of the sort buffer in bytes, as a 64-bit word. -/
def bufferCapacity (settings : Settings) : UInt64 := settings.sortBufferMb <<< 20

/-- The settings with one of them read from a text. -/
def assign (settings : Settings) (setting : Setting) (value : String) :
    Except ValueError Settings :=
  match setting with
  | .sortBufferMb => do
    return { settings with sortBufferMb := ← (Numeral.readWord64 value).mapError .numeral }
  | .spillPercent => do
    return { settings with spillPercent := ← (Binary64.read value).mapError .number }
  | .sortFactor => do
    return { settings with sortFactor := ← (Numeral.readWord64 value).mapError .numeral }
  | .partitions => do
    return { settings with partitions := ← (Numeral.readWord32 value).mapError .numeral }

/-- Refuses settings that cannot be worked with. The first fault in the order of
the fields is reported. -/
def validate (settings : Settings) : Except SettingsError Unit :=
  if settings.sortBufferMb.toNat = 0 then .error .emptyBuffer
  else if largestBufferMb < settings.sortBufferMb.toNat then
    .error (.bufferTooLarge settings.sortBufferMb)
  else if !settings.spillPercent.isPositiveShare then
    .error (.percentOutOfRange settings.spillPercent)
  else if settings.sortFactor.toNat = 0 then .error .zeroFactor
  else if settings.partitions.toNat = 0 then .error .noPartitions
  else .ok ()

/-- The accountant for the buffer. -/
def accountant (settings : Settings) : Except SettingsError Spill.Accountant := do
  settings.validate
  (Spill.Accountant.create settings.bufferCapacity settings.spillPercent
    settings.partitions).mapError .unaccountable

end Settings

end ExternalSort
