import ExternalSort.Attempt
import ExternalSort.Binary64.Basic
import ExternalSort.Merge.Trace

/-!
# Events

What the library tells about its work while it works. An event is kept as what
happened; its level, its text and its named values are read off it.

A computation that emits events is a `Logged` one. A `Reported` computation may
fail, and the events emitted before the failure stay in the log.
-/

namespace ExternalSort

/-- How much an event matters, from little to much. -/
inductive Level where
  | trace
  | debug
  | info
  | warn
  deriving DecidableEq, Repr

/-- The name of a level. -/
def Level.name : Level → String
  | .trace => "TRACE"
  | .debug => "DEBUG"
  | .info => "INFO"
  | .warn => "WARN"

/-- The value of a field of an event. -/
inductive FieldValue where
  | count (n : Nat)
  | number (x : Binary64)
  | text (s : String)
  deriving DecidableEq, Repr

/-- Something that happened. -/
inductive Event where
  /-- The first pass of a merge was made smaller than the factor allows. -/
  | firstPassSized (factor segments fanIn : Nat)
  /-- A pass was added to a merge. -/
  | passMerged (pass : Merge.Pass)
  /-- A prediction was made. -/
  | spillsPredicted (records : Nat) (bufferFootprint : Nat) (thresholdBytes : Binary64)
      (spillFiles materializedBytes : Nat)
  /-- A model was built. -/
  | modelConfigured (bufferBytes : Nat) (thresholdBytes : Binary64) (factor partitions : Nat)
      (policy : Merge.Policy)
  /-- A setting was changed by a property. -/
  | propertyApplied (key value : String)
  /-- A property names no setting. -/
  | propertyIgnored (key : String)
  deriving DecidableEq, Repr

namespace Event

/-- How much the event matters. -/
def level : Event → Level
  | .firstPassSized .. => .trace
  | .passMerged .. | .spillsPredicted .. | .propertyApplied .. => .debug
  | .modelConfigured .. => .info
  | .propertyIgnored .. => .warn

/-- The text of the event. -/
def message : Event → String
  | .firstPassSized .. => "first pass factor"
  | .passMerged .. => "merge pass"
  | .spillsPredicted .. => "predicted spills"
  | .modelConfigured .. => "model configured"
  | .propertyApplied .. => "applied property"
  | .propertyIgnored .. => "ignoring unknown property"

/-- The named values of the event. -/
def fields : Event → List (String × FieldValue)
  | .firstPassSized factor segments fanIn =>
    [("factor", .count factor), ("segments_remaining", .count segments),
      ("pass_factor", .count fanIn)]
  | .passMerged pass =>
    [("pass", .count pass.number), ("segments_before", .count pass.segmentsBefore),
      ("effective_factor", .count pass.fanIn), ("segments_after", .count pass.segmentsAfter)]
  | .spillsPredicted records bufferFootprint thresholdBytes spillFiles materializedBytes =>
    [("record_count", .count records), ("buffer_footprint", .count bufferFootprint),
      ("threshold_bytes", .number thresholdBytes), ("num_spill_files", .count spillFiles),
      ("materialized_bytes", .count materializedBytes)]
  | .modelConfigured bufferBytes thresholdBytes factor partitions policy =>
    [("buffer_bytes", .count bufferBytes), ("threshold_bytes", .number thresholdBytes),
      ("factor", .count factor), ("partitions", .count partitions), ("policy", .text policy.name)]
  | .propertyApplied key value => [("key", .text key), ("value", .text value)]
  | .propertyIgnored key => [("key", .text key)]

end Event

/-- What a listener is told: how much it matters, a text, and named values. -/
structure Telling where
  level : Level
  message : String
  fields : List (String × FieldValue)
  deriving DecidableEq, Repr

/-- What a listener hears of an event. -/
def Event.telling (event : Event) : Telling := ⟨event.level, event.message, event.fields⟩

/-! ## Computations that emit events -/

/-- Events in the order in which they were emitted. -/
abbrev Log := Array Event

/-- A computation that emits events. -/
abbrev Logged := StateM Log

/-- A computation that emits events and may fail. -/
abbrev Reported (ε : Type) := Attempt Log ε

/-- Emits an event. -/
def emit (event : Event) : Logged Unit := modify fun log => log.push event

namespace Logged

variable {α β : Type}

/-- The value of a computation that starts with a log, and the log in the end. -/
def after (computation : Logged α) (log : Log) : α × Log := computation.run log

/-- The value of a computation and the events it emits. -/
def observe (computation : Logged α) : α × Log := computation.after #[]

@[simp] theorem after_pure (a : α) (log : Log) : after (pure a) log = (a, log) := rfl

@[simp] theorem after_bind (computation : Logged α) (next : α → Logged β) (log : Log) :
    after (computation >>= next) log
      = after (next (after computation log).1) (after computation log).2 := rfl

@[simp] theorem after_emit (event : Event) (log : Log) :
    after (emit event) log = ((), log.push event) := rfl

end Logged

/-- The outcome of a computation and the events it emits. -/
def Reported.observe {ε α : Type} (computation : Reported ε α) : Except ε α × Log :=
  Attempt.after computation #[]

@[simp] theorem Reported.after_emit {ε : Type} (event : Event) (log : Log) :
    Attempt.after (liftM (emit event) : Reported ε Unit) log = (.ok (), log.push event) := rfl

end ExternalSort
