import ExternalSort.CommandLine.Argument
import ExternalSort.CommandLine.Assignment

/-!
# Scanning arguments

Arguments are scanned from left to right. Each of them opens an option, is the
value of the option that is open, or stands for itself. The scan of the program
level ends at the name of a command; the arguments behind it are scanned at the
level of that command.

A value that is attached to its option is read at once. A value that is an
argument of its own is read when the scan comes to the next option, to a number
or to its end (`Scan.settle`), so a fault in it shows before what follows is
looked at. The name of a command settles nothing: the value in front of it is
read only after the arguments behind it.
-/

namespace ExternalSort.CommandLine

/-- What an argument asks for instead of a command. -/
inductive Inquiry where
  | version
  | help
  deriving DecidableEq, Repr

/-- Why a scan does not go on to its end. -/
inductive Halt where
  | fault (error : UsageError)
  | inquiry (inquiry : Inquiry)
  deriving DecidableEq, Repr

/-- An option that is not settled. -/
inductive Pending where
  /-- The value is still to come. -/
  | awaited (option : OptionName)
  /-- The value is there but has not been read. -/
  | unread (option : OptionName) (text : String)
  deriving DecidableEq, Repr

/-- What the arguments so far have given. -/
structure Scan where
  level : Level
  /-- The options that are settled, in the order of the arguments. -/
  given : List Assignment := []
  /-- Arguments that stand for themselves. -/
  numbers : List Int64 := []
  pending : Option Pending := none
  /-- The mark `--` has been seen. -/
  trailing : Bool := false
  deriving DecidableEq, Repr

namespace Scan

/-! ## 1. Options and values -/

/-- Reads the value of an option and keeps it. -/
def assign (scan : Scan) (option : OptionName) (text : String) : Except Halt Scan := do
  if !scan.level.mayRepeat option && scan.given.any (fun earlier => earlier.option = option) then
    throw (.fault (.repeated option))
  let assignment ← (Assignment.read scan.level option text).mapError .fault
  return { scan with given := scan.given ++ [assignment] }

/-- Settles the option that is pending. -/
def settle (scan : Scan) : Except Halt Scan :=
  match scan.pending with
  | none => .ok scan
  | some (.awaited option) => .error (.fault (.missingValue option))
  | some (.unread option text) => { scan with pending := none }.assign option text

/-- Ends the scan with an inquiry. -/
def inquire (scan : Scan) (inquiry : Inquiry) : Except Halt Scan := do
  let _ ← scan.settle
  throw (.inquiry inquiry)

/-- Opens an option. A value that is attached to it settles it at once. -/
def openOption (scan : Scan) (option : OptionName) (attached : Option String) :
    Except Halt Scan := do
  let scan ← scan.settle
  match attached with
  | some text => scan.assign option text
  | none => return { scan with pending := some (.awaited option) }

/-- An argument that stands for itself. -/
def takeNumber (scan : Scan) (argument : String) : Except Halt Scan := do
  let scan ← scan.settle
  if scan.level.takesNumbers then
    let number ← (Numeral.readInt64 argument).mapError fun _ => .fault (.badNumber argument)
    return { scan with numbers := scan.numbers ++ [number] }
  else throw (.fault (.unexpected argument))

/-- The option whose value is still to come. -/
def awaited? (scan : Scan) : Option OptionName :=
  match scan.pending with
  | some (.awaited option) => some option
  | _ => none

/-- An argument that is the value of the open option, or stands for itself. -/
def takePlain (scan : Scan) (argument : String) : Except Halt Scan :=
  match scan.awaited? with
  | some option => .ok { scan with pending := some (.unread option argument) }
  | none => scan.takeNumber argument

/-- What is attached to an option letter. An equals sign between them does not
belong to the value. -/
def attachedValue : List Char → Option String
  | [] => none
  | '=' :: value => some (String.ofList value)
  | value => some (String.ofList value)

/-- An argument of letters behind one hyphen. Every letter either takes all that
is behind it or ends the scan, so only the first one counts. -/
def takeLetters (scan : Scan) (letters : List Char) : Except Halt Scan :=
  match letters with
  | 'D' :: attached => scan.openOption .property (attachedValue attached)
  | 'V' :: _ =>
    if scan.level = .program then scan.inquire .version
    else .error (.fault (.unknownOption "-V"))
  | 'h' :: _ => scan.inquire .help
  | _ => .error (.fault (.unknownOption ("-" ++ String.ofList letters)))

/-- An argument with a name behind two hyphens. -/
def takeLong (scan : Scan) (name : String) (value : Option String) : Except Halt Scan :=
  match scan.level.findLong? name with
  | some option => scan.openOption option value
  | none =>
    if name = "version" ∧ value = none ∧ scan.level = .program then scan.inquire .version
    else if name = "help" ∧ value = none then scan.inquire .help
    else .error (.fault (.unknownOption ("--" ++ name)))

/-- An argument that looks like a negative number is a value here and not an
option. -/
def takesNegatives (scan : Scan) : Bool :=
  scan.level.takesNumbers || scan.awaited?.any OptionName.takesNegatives

/-! ## 2. The scan -/

/-- Goes on by one argument. -/
def step (scan : Scan) (argument : String) : Except Halt Scan :=
  if scan.trailing then scan.takeNumber argument
  else
    match Shape.ofText argument with
    | .escape => .ok { scan with trailing := true }
    | .long name value => scan.takeLong name value
    | .short letters =>
      if looksLikeNumber letters ∧ scan.takesNegatives then scan.takePlain argument
      else scan.takeLetters letters
    | .plain => scan.takePlain argument

/-- Scans the arguments behind a command. -/
def command (scan : Scan) (arguments : List String) : Except Halt Scan := do
  (← arguments.foldlM step scan).settle

/-- A name of a command is looked for where an argument would stand for itself. -/
def expectsCommand (scan : Scan) : Bool := !scan.trailing && scan.awaited?.isNone

/-- Asks for help, with no topic or with one: a command or `help` itself. -/
def help : List String → Halt
  | [] => .inquiry .help
  | topic :: rest =>
    if (CommandName.ofText? topic).isNone ∧ topic ≠ "help" then .fault (.unexpected topic)
    else
      match rest with
      | [] => .inquiry .help
      | argument :: _ => .fault (.unexpected argument)

/-- Scans the arguments before the command. Gives the command and the arguments
behind it as well. -/
def program (scan : Scan) : List String → Except Halt (Scan × CommandName × List String)
  | [] => do
    let _ ← scan.settle
    throw (.fault .missingCommand)
  | argument :: arguments => do
    if scan.expectsCommand then
      if let some name := CommandName.ofText? argument then return (scan, name, arguments)
      if argument = "help" then throw (help arguments)
    (← scan.step argument).program arguments

end Scan

end ExternalSort.CommandLine
