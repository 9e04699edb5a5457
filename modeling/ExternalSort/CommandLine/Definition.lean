/-!
# Options and commands

The command line has two levels. Before the command stand the options for
settings; behind the command stand its own options, and the options for settings
once more.
-/

namespace ExternalSort.CommandLine

/-! ## 1. Options -/

/-- An option. Each takes a value. -/
inductive OptionName where
  | property
  | sortMb
  | spillPercent
  | factor
  | partitions
  | policy
  | records
  | segments
  | spills
  | keyBytes
  | textKeyChars
  | valueBytes
  deriving DecidableEq, Repr

namespace OptionName

/-- The options for settings. -/
def forSettings : List OptionName :=
  [.property, .sortMb, .spillPercent, .factor, .partitions, .policy]

/-- The name of an option behind two hyphens. -/
def long? : OptionName → Option String
  | .property => none
  | .sortMb => some "sort-mb"
  | .spillPercent => some "spill-percent"
  | .factor => some "factor"
  | .partitions => some "partitions"
  | .policy => some "policy"
  | .records => some "records"
  | .segments => some "segments"
  | .spills => some "spills"
  | .keyBytes => some "key-bytes"
  | .textKeyChars => some "text-key-chars"
  | .valueBytes => some "value-bytes"

/-- An option as it is written. -/
def display (option : OptionName) : String :=
  match option.long? with
  | some name => "--" ++ name
  | none => "-D"

/-- The next argument is the value of the option also if it looks like a negative
number. -/
def takesNegatives : OptionName → Bool
  | .keyBytes | .valueBytes => true
  | _ => false

end OptionName

/-! ## 2. Commands -/

/-- The commands. -/
inductive CommandName where
  | varint
  | spill
  | merge
  | plan
  | sweep
  | recordsForSpills
  deriving DecidableEq, Repr

namespace CommandName

/-- All commands. -/
def all : List CommandName := [.varint, .spill, .merge, .plan, .sweep, .recordsForSpills]

/-- A command as it is written. -/
def display : CommandName → String
  | .varint => "varint"
  | .spill => "spill"
  | .merge => "merge"
  | .plan => "plan"
  | .sweep => "sweep"
  | .recordsForSpills => "records-for-spills"

/-- The command that is written like this. -/
def ofText? (text : String) : Option CommandName := all.find? fun name => name.display = text

/-- The options of a command. -/
def options : CommandName → List OptionName
  | .varint => []
  | .merge => [.segments]
  | .spill | .plan | .sweep => [.records, .keyBytes, .textKeyChars, .valueBytes]
  | .recordsForSpills => [.spills, .keyBytes, .textKeyChars, .valueBytes]

end CommandName

/-! ## 3. Levels -/

/-- Where on the command line an argument stands. -/
inductive Level where
  /-- Before the command. -/
  | program
  /-- Behind the command. -/
  | command (name : CommandName)
  deriving DecidableEq, Repr

namespace Level

/-- The options that may stand here. -/
def options : Level → List OptionName
  | .program => OptionName.forSettings
  | .command name => OptionName.forSettings ++ name.options

/-- Arguments that are no option may stand here. They are numbers, so one that
looks like a negative number is never taken for an option. -/
def takesNumbers (level : Level) : Bool := level = .command .varint

/-- The number of records is a list of numbers here. -/
def takesLists (level : Level) : Bool := level = .command .sweep

/-- The option may be given again here. Its values are then taken together. -/
def mayRepeat (level : Level) (option : OptionName) : Bool :=
  option = .property || (option = .records && level.takesLists)

/-- The option that is written like this behind two hyphens. -/
def findLong? (level : Level) (name : String) : Option OptionName :=
  level.options.find? fun option => option.long? = some name

end Level

end ExternalSort.CommandLine
