import ExternalSort.Settings.Basic
import ExternalSort.Text.Blank

/-!
# Properties

A property is a text `key=value` that changes a setting. Blanks around the key
and around the value do not matter. A property whose key names no setting is
passed over with a warning.

Properties are applied one after the other, so the last one for a setting
decides. A property changes one setting or, if it has a fault, none. The first
property with a fault ends the list; the settings then stand as the properties
before it have left them.
-/

namespace ExternalSort

/-- A key and a value, as they stand on the two sides of the sign. -/
structure Property where
  key : String
  value : String
  deriving DecidableEq, Repr

/-- Splits a text at its first equals sign. The key is trimmed and must not be
blank; the value is left as it is. -/
def Property.read (pair : String) : Except SettingsError Property :=
  match Text.splitAtFirst? '=' pair with
  | none => .error (.notAPair pair)
  | some (key, value) =>
    let key := Text.trim key
    if key = "" then .error (.emptyKey pair) else .ok ⟨key, value⟩

namespace Settings

/-- The settings with the one changed that a property names. -/
def applyProperty (settings : Settings) (property : Property) :
    Reported SettingsError Settings := do
  let key := Text.trim property.key
  let value := Text.trim property.value
  match Setting.ofKey? key with
  | none =>
    emit (.propertyIgnored key)
    return settings
  | some setting =>
    match settings.assign setting value with
    | .error cause => throw (.badValue property.key value cause)
    | .ok changed =>
      emit (.propertyApplied property.key value)
      return changed

/-- Reads a property and applies it. -/
def applyPair (settings : Settings) (pair : String) : Reported SettingsError Settings := do
  settings.applyProperty (← Property.read pair)

/-- Settings after some properties, and the fault that ended them. -/
structure Edited where
  settings : Settings
  fault? : Option SettingsError
  deriving DecidableEq, Repr

/-- Applies properties in their order, up to the first one with a fault. -/
def applyPairs (settings : Settings) : List String → Logged Edited
  | [] => pure ⟨settings, none⟩
  | pair :: pairs => do
    match ← (settings.applyPair pair).run with
    | .ok changed => changed.applyPairs pairs
    | .error fault => return ⟨settings, some fault⟩

end Settings

end ExternalSort
