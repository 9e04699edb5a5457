import ExternalSort.CommandLine.Definition

/-!
# Faults in arguments

Why a list of arguments is refused. Each fault names the option or the text that
it was found at.
-/

namespace ExternalSort.CommandLine

/-- Why arguments cannot be understood. -/
inductive UsageError where
  /-- An option has no value. -/
  | missingValue (option : OptionName)
  /-- An argument looks like an option, but there is none like it here. -/
  | unknownOption (argument : String)
  /-- An argument is no option and has no place here. -/
  | unexpected (argument : String)
  /-- An option is given twice but has room for one value. -/
  | repeated (option : OptionName)
  /-- A text is not a value of the option. -/
  | badValue (option : OptionName) (value : String)
  /-- A text is not a number. -/
  | badNumber (value : String)
  | missingOption (option : OptionName)
  /-- Two options exclude each other. -/
  | conflicting (option other : OptionName)
  | missingNumbers
  | missingCommand
  deriving DecidableEq, Repr

/-- The text of the error. -/
def UsageError.message : UsageError → String
  | .missingValue option => s!"a value is required for '{option.display}'"
  | .unknownOption argument => s!"unexpected argument '{argument}'"
  | .unexpected argument => s!"unexpected argument '{argument}'"
  | .repeated option => s!"the argument '{option.display}' cannot be used multiple times"
  | .badValue option value => s!"invalid value '{value}' for '{option.display}'"
  | .badNumber value => s!"invalid value '{value}'"
  | .missingOption option => s!"the argument '{option.display}' is required"
  | .conflicting option other =>
    s!"the argument '{option.display}' cannot be used with '{other.display}'"
  | .missingNumbers => "at least one value is required"
  | .missingCommand => "a command is required"

end ExternalSort.CommandLine
