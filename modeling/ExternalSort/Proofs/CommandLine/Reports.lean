import ExternalSort.Proofs.CommandLine.Accepted
import ExternalSort.Proofs.CommandLine.Printing
import ExternalSort.Proofs.CommandLine.VarintReport
import ExternalSort.Proofs.Model.Faults
import ExternalSort.Proofs.Model.Sweep
import ExternalSort.Proofs.Text.Line

/-!
# Whole reports and broken ones

Three relations say how a run can end. It completes and has printed a whole report
(`Completes`); or it is refused before it has printed anything (`Refuses`); or it breaks off
behind its first line (`BreaksOff`). The last happens in two commands only: `spill` prints the
size of a record before it predicts anything, and `plan` prints the settings before it looks
at the records. All that is printed is written out here, text by text.

`reports_whole_or_none`: these are all the ways in which a run ends, and what a run that breaks
off leaves behind is a single line.
-/

namespace ExternalSort

/-- The merge of so many segments under the policy and with the factor of the settings. -/
def Model.traceFor (model : Model) (segments : Nat) : Merge.Trace :=
  let policy := model.settings.mergePolicy
  let factor := model.settings.sortFactor.toNat
  ⟨policy, factor, segments, Merge.passList policy factor segments⟩

namespace CommandLine

/-! ## 1. Shapes -/

/-- The records of a shape have keys of so many bytes, and this size. -/
structure RecordShape.HasSize (shape : RecordShape) (keyBytes : Int64) (size : RecordSize) :
    Prop where
  keyBytes_eq : shape.key.keyBytes = .ok keyBytes
  size_eq : RecordSize.ofLengths keyBytes shape.valueBytes = .ok size

/-- Why the records of a shape have no size. -/
inductive RecordShape.Fault (shape : RecordShape) : ModelError → Prop
  | text {length : Int64} :
      shape.key = .text length → length < 0 → Fault shape (.size ⟨.textLength, length⟩)
  | key {keyBytes : Int64} :
      shape.key.keyBytes = .ok keyBytes → keyBytes < 0 → Fault shape (.size ⟨.keyBytes, keyBytes⟩)
  | value {keyBytes : Int64} :
      shape.key.keyBytes = .ok keyBytes → 0 ≤ keyBytes → shape.valueBytes < 0 →
      Fault shape (.size ⟨.valueBytes, shape.valueBytes⟩)

variable {shape : RecordShape} {keyBytes : Int64} {size : RecordSize} {error : ModelError}

theorem KeyShape.keyBytes_eq_error_iff {key : KeyShape} :
    key.keyBytes = .error error ↔
      ∃ length, key = .text length ∧ length < 0 ∧ error = .size ⟨.textLength, length⟩ := by
  cases key with
  | bytes length =>
    refine iff_of_false nofun ?_
    rintro ⟨_, h, -⟩
    cases h
  | text length =>
    rw [KeyShape.keyBytes, Attempt.mapError_eq_error_iff]
    constructor
    · rintro ⟨cause, hcause, rfl⟩
      obtain ⟨hlength, rfl⟩ := textFieldBytes_eq_error_iff.1 hcause
      exact ⟨length, rfl, hlength, rfl⟩
    · rintro ⟨_, hkey, hlength, rfl⟩
      cases hkey
      exact ⟨_, textFieldBytes_eq_error_iff.2 ⟨hlength, rfl⟩, rfl⟩

theorem RecordShape.fault_iff :
    shape.Fault error ↔ shape.key.keyBytes = .error error ∨
      ∃ keyBytes cause, shape.key.keyBytes = .ok keyBytes ∧
        RecordSize.ofLengths keyBytes shape.valueBytes = .error cause ∧ error = .size cause := by
  simp only [RecordSize.ofLengths_eq_error_iff, KeyShape.keyBytes_eq_error_iff]
  constructor
  · intro h
    cases h with
    | text hkey hlength => exact .inl ⟨_, hkey, hlength, rfl⟩
    | key hkey hneg => exact .inr ⟨_, _, hkey, .inl ⟨hneg, rfl⟩, rfl⟩
    | value hkey hnonneg hneg => exact .inr ⟨_, _, hkey, .inr ⟨hnonneg, hneg, rfl⟩, rfl⟩
  · rintro (⟨length, hkey, hlength, rfl⟩ | ⟨keyBytes, cause, hkey, hcause, rfl⟩)
    · exact .text hkey hlength
    · obtain ⟨hneg, rfl⟩ | ⟨hnonneg, hneg, rfl⟩ := hcause
      · exact .key hkey hneg
      · exact .value hkey hnonneg hneg

theorem RecordShape.hasSize_or_fault (shape : RecordShape) :
    (∃ keyBytes size, shape.HasSize keyBytes size) ∨ ∃ error, shape.Fault error := by
  cases hkey : shape.key.keyBytes with
  | error error => exact .inr ⟨error, fault_iff.2 (.inl hkey)⟩
  | ok keyBytes =>
    cases hsize : RecordSize.ofLengths keyBytes shape.valueBytes with
    | error cause => exact .inr ⟨_, fault_iff.2 (.inr ⟨keyBytes, cause, hkey, hsize, rfl⟩)⟩
    | ok size => exact .inl ⟨keyBytes, size, hkey, hsize⟩

/-- Why there is no plan for so many records of a shape. -/
inductive RecordShape.NoPlan (shape : RecordShape) (model : Model) (records : UInt64) :
    ModelError → Prop
  | text {length : Int64} :
      shape.key = .text length → length < 0 →
      NoPlan shape model records (.size ⟨.textLength, length⟩)
  | plan {keyBytes : Int64} {error : ModelError} :
      shape.key.keyBytes = .ok keyBytes →
      model.PlanFault ⟨records, keyBytes, shape.valueBytes⟩ error →
      NoPlan shape model records error

/-! ## 2. Texts -/

def settingsText (settings : Settings) : String :=
  s!"sort buffer: {settings.sortBufferMb.toNat} MB, spill at {settings.spillPercent.display}, " ++
    s!"factor {settings.sortFactor.toNat}, partitions {settings.partitions.toNat}, " ++
    s!"{settings.mergePolicy.name} merge"

def sizeText (size : RecordSize) : String :=
  s!"record size: key {size.keyHeader}+{size.keyBytes} B, " ++
    s!"value {size.valueHeader}+{size.valueBytes} B, " ++
    s!"buffer {size.bufferFootprint} B, wire {size.wireFootprint} B"

def predictionText (prediction : Spill.Prediction) : String :=
  s!"spill files: {prediction.spillFiles}, payload bytes: {prediction.payloadBytes}, " ++
    s!"wire bytes: {prediction.wireBytes}, materialized bytes: {prediction.materializedBytes}"

def passText (pass : Merge.Pass) : String :=
  s!"  pass {pass.number}: {pass.segmentsBefore} segments, merging {pass.fanIn}, " ++
    s!"{pass.segmentsAfter} remaining"

/-- A merge has a line of its own and one for each of its passes. -/
def mergeText (trace : Merge.Trace) : String :=
  s!"{trace.policy.name} merge of {trace.initialSegments} segments, " ++
    s!"factor {trace.factor}: {trace.passes.length} passes\n" ++
    String.join (trace.passes.map fun pass => passText pass ++ "\n")

def planText (plan : Plan) : String :=
  s!"records: {plan.workload.records.toNat}\n" ++ (sizeText plan.recordSize ++ "\n") ++
    (predictionText plan.spill ++ "\n") ++
    if plan.merge.passes = [] then "no merge needed\n" else mergeText plan.merge

/-! ## 3. Endings -/

variable {flags : Flags} {command : Command} {text : String}

/-- A run succeeds, and this is its whole report. -/
inductive Completes (flags : Flags) : Command → String → Prop
  | varint {values : List Int64} :
      Completes flags (.varint values)
        (String.join (values.map fun value => varintText value ++ "\n"))
  | spill {model : Model} {records : UInt64} {shape : RecordShape} {keyBytes : Int64}
      {size : RecordSize} :
      flags.IsAccepted model.settings → shape.HasSize keyBytes size →
      model.IsPredictable size records →
      Completes flags (.spill records shape)
        ((sizeText size ++ "\n") ++
          (predictionText (model.accountant.totals records.toNat size) ++ "\n"))
  | merge {model : Model} {segments : UInt64} :
      flags.IsAccepted model.settings →
      Merge.Mergeable model.settings.sortFactor.toNat segments.toNat →
      Completes flags (.merge segments) (mergeText (model.traceFor segments.toNat))
  | plan {model : Model} {records : UInt64} {shape : RecordShape} {keyBytes : Int64}
      {plan : Plan} :
      flags.IsAccepted model.settings → shape.key.keyBytes = .ok keyBytes →
      model.IsPlan ⟨records, keyBytes, shape.valueBytes⟩ plan →
      Completes flags (.plan records shape)
        ((settingsText model.settings ++ "\n") ++ planText plan)
  | sweep {model : Model} {counts : List UInt64} {shape : RecordShape} {keyBytes : Int64}
      {size : RecordSize} :
      flags.IsAccepted model.settings → shape.HasSize keyBytes size →
      (∀ records ∈ counts, model.IsPredictable size records) →
      Completes flags (.sweep counts shape)
        (String.join (counts.map fun records =>
          Text.alignRight 12 (toString records.toNat) ++ " records: " ++
            predictionText (model.accountant.totals records.toNat size) ++ "\n"))
  | recordsForSpills {model : Model} {spills : UInt64} {shape : RecordShape} {keyBytes : Int64}
      {size : RecordSize} {records : Nat} :
      flags.IsAccepted model.settings → shape.HasSize keyBytes size →
      model.accountant.recordsFor spills size = .ok records →
      Completes flags (.recordsForSpills spills shape) s!"{records}\n"

/-- A run fails with this error behind a first line, and this is the line. -/
inductive BreaksOff (flags : Flags) : Command → ModelError → String → Prop
  | spill {model : Model} {records : UInt64} {shape : RecordShape} {keyBytes : Int64}
      {size : RecordSize} :
      flags.IsAccepted model.settings → shape.HasSize keyBytes size →
      ¬model.IsPredictable size records →
      BreaksOff flags (.spill records shape) (.spill (.totalTooLarge records))
        (sizeText size ++ "\n")
  | plan {model : Model} {records : UInt64} {shape : RecordShape} {error : ModelError} :
      flags.IsAccepted model.settings → shape.NoPlan model records error →
      BreaksOff flags (.plan records shape) error (settingsText model.settings ++ "\n")

/-- A run fails with this error before it has printed anything. -/
inductive Refuses (flags : Flags) : Command → ModelError → Prop
  | settings {command : Command} {fault : SettingsError} :
      (∀ values, command ≠ .varint values) → flags.IsRefused fault →
      Refuses flags command (.settings fault)
  | spillShape {model : Model} {records : UInt64} {shape : RecordShape} {error : ModelError} :
      flags.IsAccepted model.settings → shape.Fault error →
      Refuses flags (.spill records shape) error
  | merge {model : Model} {segments : UInt64} {cause : Merge.MergeError} :
      flags.IsAccepted model.settings →
      Merge.MergeFault model.settings.sortFactor.toNat segments.toNat cause →
      Refuses flags (.merge segments) (.merge segments.toNat cause)
  | sweepShape {model : Model} {counts : List UInt64} {shape : RecordShape}
      {error : ModelError} :
      flags.IsAccepted model.settings → shape.Fault error →
      Refuses flags (.sweep counts shape) error
  /-- Whatever the counts before the first one without a prediction are. -/
  | sweep {model : Model} {earlier later : List UInt64} {records : UInt64} {shape : RecordShape}
      {keyBytes : Int64} {size : RecordSize} :
      flags.IsAccepted model.settings → shape.HasSize keyBytes size →
      (∀ records ∈ earlier, model.IsPredictable size records) →
      ¬model.IsPredictable size records →
      Refuses flags (.sweep (earlier ++ records :: later) shape)
        (.spill (.totalTooLarge records))
  | recordsShape {model : Model} {spills : UInt64} {shape : RecordShape} {error : ModelError} :
      flags.IsAccepted model.settings → shape.Fault error →
      Refuses flags (.recordsForSpills spills shape) error
  | recordsForSpills {model : Model} {spills : UInt64} {shape : RecordShape} {keyBytes : Int64}
      {size : RecordSize} {cause : Spill.ConfigError} :
      flags.IsAccepted model.settings → shape.HasSize keyBytes size →
      model.accountant.recordsFor spills size = .error cause →
      Refuses flags (.recordsForSpills spills shape) (.spill cause)

/-! ## 4. The program prints these texts -/

theorem settingsLine_eq (settings : Settings) :
    settingsLine settings = settingsText settings ++ "\n" := by
  have hend : " merge\n" = " merge" ++ "\n" := by decide
  unfold settingsLine settingsText
  simp only [toString, hend, String.append_assoc]

theorem sizeLine_eq (size : RecordSize) :
    s!"record size: {size.display}\n" = sizeText size ++ "\n" := by
  have hkey : "record size: key " = "record size: " ++ "key " := by decide
  have hvalue : " B, value " = " B, " ++ "value " := by decide
  unfold sizeText RecordSize.display
  simp only [toString, hkey, hvalue, String.append_assoc]

theorem predictionLine_eq (prediction : Spill.Prediction) :
    s!"{prediction.display}\n" = predictionText prediction ++ "\n" := by
  unfold predictionText Spill.Prediction.display
  simp only [toString, String.append_assoc]

theorem sweepLine_eq (records : UInt64) (prediction : Spill.Prediction) :
    sweepLine records prediction
      = Text.alignRight 12 (toString records.toNat) ++ " records: " ++
        predictionText prediction ++ "\n" := by
  unfold sweepLine predictionText Spill.Prediction.display
  simp only [toString, String.append_assoc]

theorem foldl_append_display (passes : List Merge.Pass) (text : String) :
    passes.foldl (fun text pass => text ++ "  " ++ pass.display ++ "\n") text
      = text ++ String.join (passes.map fun pass => passText pass ++ "\n") := by
  have hpass (pass : Merge.Pass) : "  " ++ (pass.display ++ "\n") = passText pass ++ "\n" := by
    have hindent : "  pass " = "  " ++ "pass " := by decide
    unfold passText Merge.Pass.display
    simp only [toString, hindent, String.append_assoc]
  induction passes generalizing text with
  | nil => simp
  | cons pass passes ih =>
    rw [List.foldl_cons, ih, List.map_cons, String.join_cons, ← hpass]
    simp only [String.append_assoc]

theorem display_trace_eq (trace : Merge.Trace) : trace.display = mergeText trace := by
  unfold Merge.Trace.display mergeText
  exact foldl_append_display _ _

theorem display_plan_eq (plan : Plan) : plan.display = planText plan := by
  unfold Plan.display planText
  rw [sizeLine_eq, predictionLine_eq, display_trace_eq]
  simp only [Merge.Trace.isEmpty, List.isEmpty_iff]

theorem newline_notMem_settingsText (settings : Settings) :
    '\n' ∉ (settingsText settings).toList := by
  have hname : '\n' ∉ (toString settings.mergePolicy.name).toList :=
    settings.mergePolicy.newline_notMem_name
  have hshare : '\n' ∉ (toString settings.spillPercent.display).toList :=
    settings.spillPercent.newline_notMem_display
  unfold settingsText
  repeat' with_reducible apply Text.notMem_append
  all_goals first | assumption | decide | exact Text.notMem_toString_nat (by decide) _

theorem newline_notMem_sizeText (size : RecordSize) : '\n' ∉ (sizeText size).toList := by
  unfold sizeText
  repeat' with_reducible apply Text.notMem_append
  all_goals first | decide | exact Text.notMem_toString_nat (by decide) _

theorem BreaksOff.isLine (h : BreaksOff flags command error text) : Text.IsLine text := by
  cases h with
  | spill _ hsize _ => exact ⟨_, newline_notMem_sizeText _, rfl⟩
  | plan _ _ => exact ⟨_, newline_notMem_settingsText _, rfl⟩

/-! ## 5. Commands end so -/

theorem RecordShape.HasSize.recordSize_eq (h : shape.HasSize keyBytes size) :
    Model.recordSize keyBytes shape.valueBytes = .ok size :=
  Model.recordSize_eq_ok_iff.2 h.size_eq

variable {outcome : Except ModelError Unit}

/-- The step that builds a model. -/
theorem Ends.modelled {model : Model} {next : Model → Printing Unit}
    (haccepted : flags.IsAccepted model.settings) (h : Ends (next model) outcome text) :
    Ends (ask flags.model >>= next) outcome text :=
  .ask_bind (Flags.model_of_isAccepted haccepted) h

/-- The steps that size a record. -/
theorem Ends.sized {next : RecordSize → Printing Unit} (hsize : shape.HasSize keyBytes size)
    (h : Ends (next size) outcome text) :
    Ends (do let size ← Model.recordSize (← shape.key.keyBytes) shape.valueBytes; next size)
      outcome text :=
  .lift_bind hsize.keyBytes_eq (.lift_bind hsize.recordSize_eq h)

theorem Ends.sized_fault {next : RecordSize → Printing Unit} (h : shape.Fault error) :
    Ends (do let size ← Model.recordSize (← shape.key.keyBytes) shape.valueBytes; next size)
      (.error error) "" := by
  obtain hkey | ⟨keyBytes, cause, hkey, hsize, rfl⟩ := RecordShape.fault_iff.1 h
  · exact .lift_bind_error hkey
  · exact .lift_bind hkey (.lift_bind_error (Model.recordSize_eq_error_iff.2 ⟨cause, hsize, rfl⟩))

theorem ends_sweepLines (entries : List (UInt64 × Spill.Prediction)) :
    Ends (entries.forM fun (records, prediction) => print (sweepLine records prediction)) (.ok ())
      (String.join (entries.map fun entry =>
        Text.alignRight 12 (toString entry.1.toNat) ++ " records: " ++
          predictionText entry.2 ++ "\n")) := by
  have hline (entry : UInt64 × Spill.Prediction) := sweepLine_eq entry.1 entry.2
  simp only [← hline]
  exact .forM_print (fun entry : UInt64 × Spill.Prediction => sweepLine entry.1 entry.2) entries

theorem ends_of_completes (h : Completes flags command text) :
    Ends (command.run flags) (.ok ()) text := by
  cases h with
  | @varint values =>
    have hlines : (values.map fun value => varintText value ++ "\n") = values.map varintLine :=
      List.map_congr_left fun value _ => (varintLine_eq value).symm
    rw [hlines]
    exact .forM_print varintLine values
  | spill haccepted hsize hpredictable =>
    rw [← sizeLine_eq, ← predictionLine_eq]
    refine .modelled haccepted (.sized hsize (.print_bind _ ?_))
    refine .ask_bind (fun log => ?_) (.print _)
    rw [Model.after_predict_of_isPredictable hpredictable]
  | merge haccepted hmergeable =>
    rw [← display_trace_eq]
    refine .modelled haccepted ?_
    refine .ask_bind (fun log => ?_) (.print _)
    exact Model.mergeTrace_eq_ok_iff.2 ⟨hmergeable, rfl⟩
  | plan haccepted hkey hplan =>
    rw [← settingsLine_eq, ← display_plan_eq]
    refine .modelled haccepted (.print_bind _ ?_)
    exact .lift_bind hkey (.ask_bind (fun log => hplan.plan_eq_ok log) (.print _))
  | @sweep model counts shape keyBytes size haccepted hsize hpredictable =>
    have hsweep (log : Log) : (Attempt.after (model.sweep counts keyBytes shape.valueBytes) log).1
        = .ok (counts.map (model.entry size)) := by
      rw [Model.after_sweep_of_isPredictable hsize.size_eq hpredictable]
    have hlines := ends_sweepLines (counts.map (model.entry size))
    rw [List.map_map] at hlines
    refine .modelled haccepted (.lift_bind hsize.keyBytes_eq ?_)
    exact .ask_bind hsweep hlines
  | recordsForSpills haccepted hsize hrecords =>
    refine .modelled haccepted (.lift_bind hsize.keyBytes_eq ?_)
    refine .lift_bind ?_ (.print _)
    rw [Model.recordsFor, hsize.recordSize_eq]
    exact Attempt.mapError_eq_ok_iff.2 hrecords

/-- What was printed in front of the step that fails stays printed. -/
theorem ends_of_breaksOff (h : BreaksOff flags command error text) :
    Ends (command.run flags) (.error error) text := by
  cases h with
  | spill haccepted hsize hoverflow =>
    rw [← sizeLine_eq]
    refine .modelled haccepted (.sized hsize ?_)
    refine .print_bind_last _ (.ask_bind_error fun log => ?_)
    rw [Model.after_predict_of_not_isPredictable hoverflow]
  | plan haccepted hnone =>
    rw [← settingsLine_eq]
    refine .modelled haccepted (.print_bind_last _ ?_)
    cases hnone with
    | text hkey hlength =>
      exact .lift_bind_error (KeyShape.keyBytes_eq_error_iff.2 ⟨_, hkey, hlength, rfl⟩)
    | plan hkey hfault =>
      exact .lift_bind hkey (.ask_bind_error fun log => Model.plan_eq_error_iff.2 hfault)

theorem ends_of_refuses (h : Refuses flags command error) :
    Ends (command.run flags) (.error error) "" := by
  cases h with
  | settings hmodel hrefused =>
    have hfails := Flags.model_of_isRefused hrefused
    cases command with
    | varint values => exact absurd rfl (hmodel values)
    | spill | merge | plan | sweep | recordsForSpills => exact .ask_bind_error hfails
  | spillShape haccepted hfault =>
    exact .modelled haccepted (.sized_fault hfault)
  | merge haccepted hfault =>
    refine .modelled haccepted (.ask_bind_error fun log => ?_)
    exact Model.mergeTrace_eq_error_iff.2 ⟨_, hfault, rfl⟩
  | sweepShape haccepted hfault =>
    refine .modelled haccepted ?_
    obtain hkey | ⟨keyBytes, cause, hkey, hsize, rfl⟩ := RecordShape.fault_iff.1 hfault
    · exact .lift_bind_error hkey
    · refine .lift_bind hkey (.ask_bind_error fun log => ?_)
      rw [Model.after_sweep_of_size_error hsize]
  | sweep haccepted hsize hearlier hoverflow =>
    refine .modelled haccepted (.lift_bind hsize.keyBytes_eq ?_)
    refine .ask_bind_error fun log => ?_
    rw [Model.after_sweep_of_first hsize.size_eq hearlier hoverflow]
  | recordsShape haccepted hfault =>
    refine .modelled haccepted ?_
    obtain hkey | ⟨keyBytes, cause, hkey, hsize, rfl⟩ := RecordShape.fault_iff.1 hfault
    · exact .lift_bind_error hkey
    · refine .lift_bind hkey (.lift_bind_error ?_)
      rw [Model.recordsFor, Model.recordSize_eq_error_iff.2 ⟨cause, hsize, rfl⟩]
      rfl
  | recordsForSpills haccepted hsize hcause =>
    refine .modelled haccepted (.lift_bind hsize.keyBytes_eq ?_)
    refine .lift_bind_error ?_
    rw [Model.recordsFor, hsize.recordSize_eq]
    exact Attempt.mapError_eq_error_iff.2 ⟨_, hcause, rfl⟩

/-! ## 6. There is no other way -/

/-- With a model, each step of a command succeeds or fails, and the first one that fails says
how the run ends. -/
theorem exists_ending {model : Model} (haccepted : flags.IsAccepted model.settings)
    (command : Command) :
    (∃ text, Completes flags command text) ∨
      (∃ error text, BreaksOff flags command error text) ∨
      ∃ error, Refuses flags command error := by
  cases command with
  | varint values => exact .inl ⟨_, .varint⟩
  | spill records shape =>
    obtain ⟨keyBytes, size, hsize⟩ | ⟨error, hfault⟩ := shape.hasSize_or_fault
    · by_cases hpredictable : model.IsPredictable size records
      · exact .inl ⟨_, .spill haccepted hsize hpredictable⟩
      · exact .inr (.inl ⟨_, _, .spill haccepted hsize hpredictable⟩)
    · exact .inr (.inr ⟨error, .spillShape haccepted hfault⟩)
  | merge segments =>
    cases hmerge : (Attempt.after (model.mergeTrace segments.toNat) #[]).1 with
    | ok trace =>
      exact .inl ⟨_, .merge haccepted (Model.mergeTrace_eq_ok_iff.1 hmerge).1⟩
    | error error =>
      obtain ⟨cause, hcause, -⟩ := Model.mergeTrace_eq_error_iff.1 hmerge
      exact .inr (.inr ⟨_, .merge haccepted hcause⟩)
  | plan records shape =>
    cases hkey : shape.key.keyBytes with
    | error error =>
      obtain ⟨length, htext, hlength, -⟩ := KeyShape.keyBytes_eq_error_iff.1 hkey
      exact .inr (.inl ⟨_, _, .plan haccepted (.text htext hlength)⟩)
    | ok keyBytes =>
      cases hplan : (Attempt.after (model.plan ⟨records, keyBytes, shape.valueBytes⟩) #[]).1 with
      | ok plan => exact .inl ⟨_, .plan haccepted hkey (Model.isPlan_of_plan_eq_ok hplan)⟩
      | error error =>
        have hfault := Model.plan_eq_error_iff.1 hplan
        exact .inr (.inl ⟨_, _, .plan haccepted (.plan hkey hfault)⟩)
  | sweep counts shape =>
    obtain ⟨keyBytes, size, hsize⟩ | ⟨error, hfault⟩ := shape.hasSize_or_fault
    · by_cases hpredictable : ∀ records ∈ counts, model.IsPredictable size records
      · exact .inl ⟨_, .sweep haccepted hsize hpredictable⟩
      · obtain ⟨earlier, records, later, rfl, hearlier, hoverflow⟩ := exists_first_not hpredictable
        exact .inr (.inr ⟨_, .sweep haccepted hsize hearlier hoverflow⟩)
    · exact .inr (.inr ⟨error, .sweepShape haccepted hfault⟩)
  | recordsForSpills spills shape =>
    obtain ⟨keyBytes, size, hsize⟩ | ⟨error, hfault⟩ := shape.hasSize_or_fault
    · cases hrecords : model.accountant.recordsFor spills size with
      | ok records => exact .inl ⟨_, .recordsForSpills haccepted hsize hrecords⟩
      | error cause => exact .inr (.inr ⟨_, .recordsForSpills haccepted hsize hrecords⟩)
    · exact .inr (.inr ⟨error, .recordsShape haccepted hfault⟩)

theorem BreaksOff.eq_spill_or_eq_plan (h : BreaksOff flags command error text) :
    ∃ records shape, command = .spill records shape ∨ command = .plan records shape := by
  cases h with
  | spill => exact ⟨_, _, .inl rfl⟩
  | plan => exact ⟨_, _, .inr rfl⟩

/-- Every run ends in one of the three ways. -/
theorem ending_cases (flags : Flags) (command : Command) :
    (∃ text, Completes flags command text) ∨
      (∃ error text, BreaksOff flags command error text) ∨
      ∃ error, Refuses flags command error := by
  obtain ⟨settings, haccepted⟩ | ⟨fault, hrefused⟩ := flags.isAccepted_or_isRefused
  · obtain ⟨model, rfl⟩ := haccepted.exists_model
    exact exists_ending haccepted command
  · by_cases hvarint : ∃ values, command = .varint values
    · obtain ⟨values, rfl⟩ := hvarint
      exact .inl ⟨_, .varint⟩
    · exact .inr (.inr ⟨_, .settings (not_exists.1 hvarint) hrefused⟩)

theorem run_of_ends (h : Ends (command.run flags) outcome text) :
    (Invocation.run ⟨flags, command⟩).1 = outcome ∧
      (Invocation.run ⟨flags, command⟩).2.printed = text := by
  obtain ⟨houtcome, htext⟩ := h {}
  exact ⟨houtcome, htext.trans String.empty_append⟩

/-- The outcome of a run tells which way it has ended. -/
theorem run_cases (flags : Flags) (command : Command) :
    let ended := Invocation.run ⟨flags, command⟩
    ended.1 = .ok () ∧ Completes flags command ended.2.printed ∨
      ∃ error, ended.1 = .error error ∧
        (BreaksOff flags command error ended.2.printed ∨
          Refuses flags command error ∧ ended.2.printed = "") := by
  intro ended
  obtain ⟨text, h⟩ | ⟨error, text, h⟩ | ⟨error, h⟩ := ending_cases flags command
  · obtain ⟨hok, rfl⟩ := run_of_ends (ends_of_completes h)
    exact .inl ⟨hok, h⟩
  · obtain ⟨herror, rfl⟩ := run_of_ends (ends_of_breaksOff h)
    exact .inr ⟨error, herror, .inl h⟩
  · obtain ⟨herror, hnothing⟩ := run_of_ends (ends_of_refuses h)
    exact .inr ⟨error, herror, .inr ⟨h, hnothing⟩⟩

/-- A run that succeeds has printed its whole report. A run that fails has printed nothing,
except for one line of a `spill` whose totals are too large, and of a `plan` whose settings are
in order. The program prints just what its command prints. -/
theorem reports_whole_or_none (flags : Flags) (command : Command) :
    let ended := Invocation.run ⟨flags, command⟩
    (∀ text, ended.1 = .ok () ∧ ended.2.printed = text ↔ Completes flags command text) ∧
    (∀ error text, ended.1 = .error error ∧ ended.2.printed = text ↔
      BreaksOff flags command error text ∨ Refuses flags command error ∧ text = "") ∧
    (∀ error text, BreaksOff flags command error text → Text.IsLine text) ∧
    ((∀ records shape, command ≠ .spill records shape ∧ command ≠ .plan records shape) →
      ended.1 = .ok () ∧ Completes flags command ended.2.printed ∨
        (∃ error, ended.1 = .error error) ∧ ended.2.printed = "") ∧
    (∀ values, command = .varint values → ended.1 = .ok ()) ∧
    ∀ arguments, Request.ofArguments arguments = .run ⟨flags, command⟩ →
      (run arguments).stdout = ended.2.printed ∧
        ((run arguments).exitCode = 0 ↔ ended.1 = .ok ()) := by
  intro ended
  refine ⟨fun text => ⟨?_, fun h => run_of_ends (ends_of_completes h)⟩,
    fun error text => ⟨?_, ?_⟩, fun error text h => h.isLine, ?_, ?_, ?_⟩
  · rintro ⟨hok, rfl⟩
    obtain ⟨-, h⟩ | ⟨error, herror, -⟩ := run_cases flags command
    · exact h
    · cases hok.symm.trans herror
  · rintro ⟨herror, rfl⟩
    obtain ⟨hok, -⟩ | ⟨error', herror', h⟩ := run_cases flags command
    · cases herror.symm.trans hok
    · cases herror.symm.trans herror'
      exact h
  · rintro (h | ⟨h, rfl⟩)
    · exact run_of_ends (ends_of_breaksOff h)
    · exact run_of_ends (ends_of_refuses h)
  · intro hother
    obtain hcompletes | ⟨error, herror, hbreaksOff | ⟨-, hnothing⟩⟩ := run_cases flags command
    · exact .inl hcompletes
    · obtain ⟨records, shape, hspill | hplan⟩ := hbreaksOff.eq_spill_or_eq_plan
      · exact absurd hspill (hother records shape).1
      · exact absurd hplan (hother records shape).2
    · exact .inr ⟨⟨error, herror⟩, hnothing⟩
  · rintro values rfl
    exact (run_of_ends (ends_of_completes .varint)).1
  · intro arguments harguments
    rcases hended : ended with ⟨error | ⟨⟩, console⟩
    · rw [run_of_error harguments hended]
      exact ⟨rfl, iff_of_false nofun nofun⟩
    · rw [run_of_ok harguments hended]
      exact ⟨rfl, iff_of_true rfl rfl⟩

/-- Four segments are merged in one pass, and this is the whole report. The largest number of
records has no prediction, so `spill` and `plan` stop behind their first line, and `sweep`
prints nothing, not even for the count before it. A factor of zero leaves `merge` without a
report, but not `varint`. -/
theorem reports_whole_or_none_largestCount :
    (run ["merge", "--segments", "4"]).stdout
        = "variable merge of 4 segments, factor 10: 1 passes\n" ++
          "  pass 1: 4 segments, merging 4, 1 remaining\n" ∧
      (run ["spill", "--records", "18446744073709551615"]).stdout
        = "record size: key 1+2 B, value 1+4 B, buffer 24 B, wire 8 B\n" ∧
      (run ["plan", "--records", "18446744073709551615"]).stdout
        = "sort buffer: 100 MB, spill at 0.8, factor 10, partitions 1, variable merge\n" ∧
      (Invocation.run ⟨{}, .sweep [0, 18446744073709551615] {}⟩).2.printed = "" ∧
      (run ["--factor", "0", "merge", "--segments", "4"]).stdout = "" ∧
      (run ["--factor", "0", "varint", "7"]).exitCode = 0 := by
  let size : RecordSize := ⟨1, 1, 2, 4, 24, 8⟩
  let zeroFactor : Flags := { sortFactor := some 0 }
  have hstandard : Flags.IsAccepted {} {} := by
    refine ⟨List.forall_mem_nil _, ⟨fun setting => ?_, rfl⟩, ?_⟩
    · cases setting <;> rfl
    · constructor <;> decide
  have hcombined : zeroFactor.IsCombined { sortFactor := 0 } := by
    refine ⟨fun setting => ?_, rfl⟩
    cases setting <;> rfl
  have hrefused : zeroFactor.IsRefused .zeroFactor := .invalid (List.forall_mem_nil _) hcombined rfl
  obtain ⟨model, hmodel⟩ := hstandard.exists_model
  have haccepted : Flags.IsAccepted {} model.settings := hmodel ▸ hstandard
  have hsize : RecordShape.HasSize {} 2 size := ⟨rfl, rfl⟩
  have hzero : model.IsPredictable size 0 := model.accountant.isReportable_totals_zero size
  have hoverflow : ¬model.IsPredictable size 18446744073709551615 := by
    rw [Model.IsPredictable, Spill.Accountant.isReportable_totals_iff]
    rintro ⟨-, hmaterialized, -⟩
    exact absurd (Nat.le_of_add_right_le hmaterialized) (by decide)
  have hfirst : ∀ records ∈ [(0 : UInt64)], model.IsPredictable size records :=
    List.forall_mem_singleton.2 hzero
  have hsizeLine : sizeText size ++ "\n"
      = "record size: key 1+2 B, value 1+4 B, buffer 24 B, wire 8 B\n" := by
    decide
  have hsettingsLine : settingsText {} ++ "\n"
      = "sort buffer: 100 MB, spill at 0.8, factor 10, partitions 1, variable merge\n" := by
    decide +kernel
  have hpasses : Merge.passList .remainderFirst 10 4 = [⟨1, 4, 4, 1⟩] := by
    rw [Merge.passList_of_two_le (by decide), Merge.passesFrom_of_lt (by decide),
      Merge.passesFrom_of_le (by decide)]
    rfl
  have hmergeText : mergeText ⟨.remainderFirst, 10, 4, [⟨1, 4, 4, 1⟩]⟩
      = "variable merge of 4 segments, factor 10: 1 passes\n" ++
        "  pass 1: 4 segments, merging 4, 1 remaining\n" := by
    decide
  obtain ⟨hwhole, -, -, -, -, hwholeRun⟩ := reports_whole_or_none {} (.merge 4)
  obtain ⟨-, hspill, -, -, -, hspillRun⟩ :=
    reports_whole_or_none {} (.spill 18446744073709551615 {})
  obtain ⟨-, hplan, -, -, -, hplanRun⟩ :=
    reports_whole_or_none {} (.plan 18446744073709551615 {})
  obtain ⟨-, hsweep, -⟩ := reports_whole_or_none {} (.sweep [0, 18446744073709551615] {})
  obtain ⟨-, hmerge, -, -, -, hmergeRun⟩ := reports_whole_or_none zeroFactor (.merge 4)
  obtain ⟨-, -, -, -, hvarint, hvarintRun⟩ := reports_whole_or_none zeroFactor (.varint [7])
  refine ⟨?_, ?_, ?_, ?_, ?_, ?_⟩
  · have hmergeable : Merge.Mergeable ({} : Settings).sortFactor.toNat (4 : UInt64).toNat := by
      decide
    have hcompletes := Completes.merge haccepted (hmodel ▸ hmergeable)
    rw [(hwholeRun _ rfl).1, ← hmergeText, ← hpasses]
    rw [Model.traceFor, hmodel] at hcompletes
    exact ((hwhole _).2 hcompletes).2
  · rw [(hspillRun _ rfl).1, ← hsizeLine]
    exact ((hspill _ _).2 (.inl (.spill haccepted hsize hoverflow))).2
  · have hnone : RecordShape.NoPlan {} model 18446744073709551615
        (.spill (.totalTooLarge 18446744073709551615)) :=
      .plan hsize.keyBytes_eq (.overflow hsize.size_eq hoverflow)
    rw [(hplanRun _ rfl).1, ← hsettingsLine, ← hmodel]
    exact ((hplan _ _).2 (.inl (.plan haccepted hnone))).2
  · exact ((hsweep _ _).2 (.inr ⟨.sweep haccepted hsize hfirst hoverflow, rfl⟩)).2
  · have hother : ∀ values, Command.merge 4 ≠ .varint values := by
      intro values hvarint
      cases hvarint
    rw [(hmergeRun _ rfl).1]
    exact ((hmerge _ _).2 (.inr ⟨.settings hother hrefused, rfl⟩)).2
  · exact (hvarintRun _ rfl).2.2 (hvarint _ rfl)

end CommandLine

end ExternalSort
