import ExternalSort.CommandLine.Invocation
import ExternalSort.Model
import ExternalSort.Text.Column

/-!
# Reports

What the program prints. A command prints its report piece by piece and may fail
in between; what was printed before stays. So a command is an attempt on the text
printed so far.
-/

namespace ExternalSort.CommandLine

/-- The text printed so far and the events so far. -/
structure Console where
  printed : String := ""
  log : Log := #[]
  deriving DecidableEq, Repr

/-- An attempt that prints text and emits events. -/
abbrev Printing := Attempt Console ModelError

/-- Prints a text. -/
def print (text : String) : Printing Unit :=
  modify fun console => { console with printed := console.printed ++ text }

/-- The answer to a question, which prints nothing. -/
def ask {α : Type} (question : Reported ModelError α) : Printing α := do
  let console ← get
  let (outcome, log) := Attempt.after question console.log
  set { console with log }
  outcome

@[simp] theorem after_print (text : String) (console : Console) :
    Attempt.after (print text) console
      = (.ok (), { console with printed := console.printed ++ text }) := rfl

@[simp] theorem after_ask {α : Type} (question : Reported ModelError α) (console : Console) :
    Attempt.after (ask question) console
      = ((Attempt.after question console.log).1,
          { console with log := (Attempt.after question console.log).2 }) := by
  unfold ask
  simp only [Attempt.after_bind, Attempt.after_get, Attempt.after_set, Attempt.after_liftExcept]

/-- What is printed piece by piece stands one behind the other. -/
theorem after_forM_print {α : Type} (line : α → String) (xs : List α) (console : Console) :
    Attempt.after (xs.forM fun x => print (line x)) console
      = (.ok (), { console with printed := console.printed ++ String.join (xs.map line) }) := by
  induction xs generalizing console with
  | nil => simp
  | cons x xs ih =>
    rw [List.forM, Attempt.after_bind, after_print]
    simp only [ih, List.map_cons, String.join_cons, String.append_assoc]

/-! ## 1. Lines -/

/-- The line for an encoded integer: the value, its bytes in binary, their
number, and the number that was expected. -/
def varintLine (value : Int64) : String :=
  let bytes := Varint.encode value
  s!"{Text.alignRight 20 (toString value.toInt)}: {Text.alignRight 80 (Text.binary bytes)}  " ++
    s!"len: {bytes.length}  expected len: {Varint.encodedLength value}\n"

/-- The line for the settings of a plan. -/
def settingsLine (settings : Settings) : String :=
  s!"sort buffer: {settings.sortBufferMb.toNat} MB, spill at {settings.spillPercent.display}, " ++
    s!"factor {settings.sortFactor.toNat}, partitions {settings.partitions.toNat}, " ++
    s!"{settings.mergePolicy.name} merge\n"

/-- The line for one number of records of a sweep. -/
def sweepLine (records : UInt64) (prediction : Spill.Prediction) : String :=
  s!"{Text.alignRight 12 (toString records.toNat)} records: {prediction.display}\n"

/-! ## 2. Commands -/

/-- The model for some flags. -/
def Flags.model (flags : Flags) : Reported ModelError Model := do
  Model.create (← flags.settings.adapt .settings)

/-- The length of a key. -/
def KeyShape.keyBytes : KeyShape → Except ModelError Int64
  | .bytes length => .ok length
  | .text length => (textFieldBytes length).mapError .size

/-- Runs a command. All but `varint` need a model, which is built first. -/
def Command.run (flags : Flags) : Command → Printing Unit
  | .varint values => values.forM fun value => print (varintLine value)
  | .spill records shape => do
    let model ← ask flags.model
    let size ← Model.recordSize (← shape.key.keyBytes) shape.valueBytes
    print s!"record size: {size.display}\n"
    let prediction ← ask (model.predict records size)
    print s!"{prediction.display}\n"
  | .merge segments => do
    let model ← ask flags.model
    let trace ← ask (model.mergeTrace segments.toNat)
    print trace.display
  | .plan records shape => do
    let model ← ask flags.model
    print (settingsLine model.settings)
    let keyBytes ← shape.key.keyBytes
    let plan ← ask (model.plan { records, keyBytes, valueBytes := shape.valueBytes })
    print plan.display
  | .sweep counts shape => do
    let model ← ask flags.model
    let predictions ← ask (model.sweep counts (← shape.key.keyBytes) shape.valueBytes)
    predictions.forM fun (records, prediction) => print (sweepLine records prediction)
  | .recordsForSpills spills shape => do
    let model ← ask flags.model
    let records ← model.recordsFor spills (← shape.key.keyBytes) shape.valueBytes
    print s!"{records}\n"

/-! ## 3. Outcomes -/

/-- What a run leaves behind. -/
structure Outcome where
  exitCode : Nat
  stdout : String
  stderr : String
  deriving DecidableEq, Repr

/-- The report of an error, with the error behind it. -/
def errorReport (error : ModelError) : String :=
  match error.cause? with
  | none => s!"Error: {error.message}\n"
  | some cause => s!"Error: {error.message}\n\nCaused by:\n    {cause}\n"

/-- Runs an invocation: whether it failed, and what it printed. -/
def Invocation.run (invocation : Invocation) : Except ModelError Unit × Console :=
  Attempt.after (invocation.command.run invocation.flags) {}

/-- The answer to `--version`. -/
def versionText : String := "spillmodel 0.1.0\n"

/-- The answer to `--help`. -/
def helpText : String :=
  "Analytical model of sort buffer spills and multi-pass merges\n\n" ++
    "Usage: spillmodel [OPTIONS] <COMMAND>\n\nCommands:\n" ++
    String.join (CommandName.all.map fun name => s!"  {name.display}\n")

/-- Runs the program. A failed command exits with 1, arguments that cannot be
understood with 2. -/
def run (arguments : List String) : Outcome :=
  match Request.ofArguments arguments with
  | .refuse error => ⟨2, "", s!"error: {error.message}\n"⟩
  | .answer .version => ⟨0, versionText, ""⟩
  | .answer .help => ⟨0, helpText, ""⟩
  | .run invocation =>
    match invocation.run with
    | (.ok (), console) => ⟨0, console.printed, ""⟩
    | (.error error, console) => ⟨1, console.printed, errorReport error⟩

theorem run_of_ok {arguments : List String} {invocation : Invocation} {console : Console}
    (harguments : Request.ofArguments arguments = .run invocation)
    (h : invocation.run = (.ok (), console)) : run arguments = ⟨0, console.printed, ""⟩ := by
  rw [run, harguments]
  simp only [h]

theorem run_of_error {arguments : List String} {invocation : Invocation} {console : Console}
    {error : ModelError} (harguments : Request.ofArguments arguments = .run invocation)
    (h : invocation.run = (.error error, console)) :
    run arguments = ⟨1, console.printed, errorReport error⟩ := by
  rw [run, harguments]
  simp only [h]

end ExternalSort.CommandLine
