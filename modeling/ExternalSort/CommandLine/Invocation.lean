import ExternalSort.CommandLine.Scan
import ExternalSort.Settings.Property

/-!
# Invocations

What a list of arguments asks the program to do: a command, and flags that
change the settings it works with.

The options for settings may stand before the command and behind it. An option
that stands behind the command takes the place of the same option before it,
with all its values.
-/

namespace ExternalSort.CommandLine

/-! ## 1. Flags -/

/-- The options for settings. -/
structure Flags where
  /-- Properties, in their order. -/
  properties : List String := []
  sortBufferMb : Option UInt64 := none
  spillPercent : Option Binary64 := none
  sortFactor : Option UInt64 := none
  partitions : Option UInt32 := none
  mergePolicy : Option Merge.Policy := none
  deriving DecidableEq, Repr

namespace Flags

/-- The flags among some options. -/
def ofGiven (given : List Assignment) : Flags :=
  { properties := given.filterMap fun | .property pair => some pair | _ => none
    sortBufferMb := given.findSome? fun | .sortMb megabytes => some megabytes | _ => none
    spillPercent := given.findSome? fun | .spillPercent share => some share | _ => none
    sortFactor := given.findSome? fun | .factor segments => some segments | _ => none
    partitions := given.findSome? fun | .partitions count => some count | _ => none
    mergePolicy := given.findSome? fun | .policy policy => some policy | _ => none }

/-- The flags behind a command, and those before it where there are none behind
it. -/
def overriding (inner outer : Flags) : Flags :=
  { properties := if inner.properties = [] then outer.properties else inner.properties
    sortBufferMb := inner.sortBufferMb <|> outer.sortBufferMb
    spillPercent := inner.spillPercent <|> outer.spillPercent
    sortFactor := inner.sortFactor <|> outer.sortFactor
    partitions := inner.partitions <|> outer.partitions
    mergePolicy := inner.mergePolicy <|> outer.mergePolicy }

/-- Settings with those replaced that have a flag of their own. -/
def replaceIn (flags : Flags) (settings : Settings) : Settings :=
  { sortBufferMb := flags.sortBufferMb.getD settings.sortBufferMb
    spillPercent := flags.spillPercent.getD settings.spillPercent
    sortFactor := flags.sortFactor.getD settings.sortFactor
    partitions := flags.partitions.getD settings.partitions
    mergePolicy := flags.mergePolicy.getD settings.mergePolicy }

/-- The settings that flags stand for: the defaults, changed by the properties
and then by the other flags. Every property must be in order, also if a flag
overrides it; only the settings in the end must be valid. -/
def settings (flags : Flags) : Reported SettingsError Settings := do
  let standard : Settings := {}
  let edited ← standard.applyPairs flags.properties
  if let some fault := edited.fault? then throw fault
  let settings := flags.replaceIn edited.settings
  settings.validate
  return settings

end Flags

/-! ## 2. Commands -/

/-- How the length of a key is given. -/
inductive KeyShape where
  | bytes (length : Int64)
  /-- The key is a text field with a text of this length. -/
  | text (length : Int64)
  deriving DecidableEq, Repr

/-- The shape of all records of a job. -/
structure RecordShape where
  key : KeyShape := .text 1
  valueBytes : Int64 := intFieldBytes
  deriving DecidableEq, Repr

/-- A command and what it works on. -/
inductive Command where
  | varint (values : List Int64)
  | spill (records : UInt64) (shape : RecordShape)
  | merge (segments : UInt64)
  | plan (records : UInt64) (shape : RecordShape)
  | sweep (counts : List UInt64) (shape : RecordShape)
  | recordsForSpills (spills : UInt64) (shape : RecordShape)
  deriving DecidableEq, Repr

/-- The value of an option that must be given. -/
def required {α : Type} (option : OptionName) : Option α → Except UsageError α
  | some value => .ok value
  | none => .error (.missingOption option)

/-- The shape of records among some options. A key has one length only. -/
def RecordShape.ofGiven (given : List Assignment) : Except UsageError RecordShape := do
  let keyBytes := given.findSome? fun | .keyBytes length => some length | _ => none
  let textKeyChars := given.findSome? fun | .textKeyChars length => some length | _ => none
  let valueBytes := given.findSome? fun | .valueBytes length => some length | _ => none
  let standard : RecordShape := {}
  let key ←
    match keyBytes, textKeyChars with
    | some _, some _ => throw (.conflicting .keyBytes .textKeyChars)
    | some length, none => pure (.bytes length)
    | none, some length => pure (.text length)
    | none, none => pure standard.key
  return { key, valueBytes := valueBytes.getD standard.valueBytes }

/-- The number of records, which must be given. -/
def recordsGiven (given : List Assignment) : Except UsageError UInt64 :=
  required .records (given.findSome? fun | .records count => some count | _ => none)

/-- The command that a scan behind its name has found. -/
def Command.ofScan (name : CommandName) (scan : Scan) : Except UsageError Command := do
  let given := scan.given
  match name with
  | .varint =>
    if scan.numbers = [] then throw .missingNumbers
    return .varint scan.numbers
  | .spill => return .spill (← recordsGiven given) (← RecordShape.ofGiven given)
  | .merge =>
    let segments := given.findSome? fun | .segments count => some count | _ => none
    return .merge (← required .segments segments)
  | .plan => return .plan (← recordsGiven given) (← RecordShape.ofGiven given)
  | .sweep =>
    let counts := given.flatMap fun | .recordCounts counts => counts | _ => []
    if counts = [] then throw (.missingOption .records)
    return .sweep counts (← RecordShape.ofGiven given)
  | .recordsForSpills =>
    let spills := given.findSome? fun | .spills count => some count | _ => none
    return .recordsForSpills (← required .spills spills) (← RecordShape.ofGiven given)

/-! ## 3. Invocations -/

/-- What a list of arguments asks for. -/
structure Invocation where
  flags : Flags
  command : Command
  deriving DecidableEq, Repr

/-- The three ways to treat a list of arguments. -/
inductive Request where
  | run (invocation : Invocation)
  | answer (inquiry : Inquiry)
  | refuse (error : UsageError)
  deriving DecidableEq, Repr

/-- Reads a list of arguments: first what is behind the command, then what is
left of the arguments before it. -/
def Invocation.read (arguments : List String) : Except Halt Invocation := do
  let (before, name, rest) ← Scan.program { level := .program } arguments
  let behind ← Scan.command { level := .command name } rest
  let command ← (Command.ofScan name behind).mapError .fault
  let before ← before.settle
  return ⟨(Flags.ofGiven behind.given).overriding (Flags.ofGiven before.given), command⟩

/-- What a list of arguments comes to. -/
def Request.ofArguments (arguments : List String) : Request :=
  match Invocation.read arguments with
  | .ok invocation => .run invocation
  | .error (.inquiry inquiry) => .answer inquiry
  | .error (.fault error) => .refuse error

end ExternalSort.CommandLine
