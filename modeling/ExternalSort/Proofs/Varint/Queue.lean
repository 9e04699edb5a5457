import ExternalSort.Proofs.Varint.Readers
import ExternalSort.Proofs.Varint.Sequence
import ExternalSort.Varint.Buffer

/-!
# A buffer is a queue of values

Values are appended to a buffer and read from it in any order of actions, each in
either of its two ways. `QueueStep` says what a queue of values answers to an action,
and a buffer answers just that, as long as its unread bytes are the encodings of the
values in the queue (`Buffer.Holds`). One action keeps this (`perform_queueStep`), and
so does a run (`run_queueRun`).

What a queue answers follows from its rules, by induction on a run: what is taken and
what is still there is together what was put in (`QueueRun.conservation`), and a
failure means that nothing is there (`QueueRun.exists_step`).

`lossless` is about buffers that are only appended to and read, and about bytes that
are cut anywhere.
-/

namespace ExternalSort.Varint.Buffer

/-! ## 1. Actions -/

/-- What is done to a buffer. -/
inductive Action where
  | append (value : Int64)
  | write (value : Int64)
  | decode
  | read
  deriving DecidableEq, Repr

/-- What an action answers. -/
inductive Answer where
  | appended (count : Nat)
  | written (result : Except StreamError Nat)
  | decoded (result : Except DecodeError (Int64 × Nat))
  | read (result : Except StreamError Int64)

/-- The value that an action puts into the buffer. -/
def Action.stored? : Action → Option Int64
  | .append value | .write value => some value
  | .decode | .read => none

/-- The value that an action has taken from the buffer. -/
def Answer.taken? : Answer → Option Int64
  | .decoded (.ok (value, _)) => some value
  | .read (.ok value) => some value
  | _ => none

/-- The action has failed. -/
def Answer.isFailure : Answer → Bool
  | .written (.error _) | .decoded (.error _) | .read (.error _) => true
  | _ => false

/-- The values that actions put into the buffer. -/
def stored (actions : List Action) : List Int64 := actions.filterMap Action.stored?

/-- The values that actions have taken from the buffer. -/
def taken (answers : List Answer) : List Int64 := answers.filterMap Answer.taken?

def perform (buffer : Buffer) : Action → Answer × Buffer
  | .append value => ((.appended (buffer.append value).1), (buffer.append value).2)
  | .write value => (.written (buffer.write value).1, (buffer.write value).2)
  | .decode => (.decoded buffer.decode.1, buffer.decode.2)
  | .read => (.read buffer.read.1, buffer.read.2)

/-- One action behind the other. -/
def run (buffer : Buffer) : List Action → List Answer × Buffer
  | [] => ([], buffer)
  | action :: actions =>
    let (answer, next) := buffer.perform action
    let (answers, last) := next.run actions
    (answer :: answers, last)

/-! ## 2. Queues -/

/-- The answer of a queue of values to an action, and the queue afterwards. -/
inductive QueueStep : List Int64 → Action → Answer → List Int64 → Prop
  | append {queue : List Int64} {value : Int64} :
      QueueStep queue (.append value) (.appended (encodedLength value)) (queue ++ [value])
  | write {queue : List Int64} {value : Int64} :
      QueueStep queue (.write value) (.written (.ok (encodedLength value))) (queue ++ [value])
  | decode {queue : List Int64} {value : Int64} :
      QueueStep (value :: queue) .decode (.decoded (.ok (value, encodedLength value))) queue
  | decodeEmpty : QueueStep [] .decode (.decoded (.error .empty)) []
  | read {queue : List Int64} {value : Int64} :
      QueueStep (value :: queue) .read (.read (.ok value)) queue
  | readEmpty : QueueStep [] .read (.read (.error .endOfInput)) []

/-- The answers of a queue to actions, one behind the other. -/
inductive QueueRun : List Int64 → List Action → List Answer → List Int64 → Prop
  | done {queue : List Int64} : QueueRun queue [] [] queue
  | step {queue next last : List Int64} {action : Action} {answer : Answer}
      {actions : List Action} {answers : List Answer} :
      QueueStep queue action answer next → QueueRun next actions answers last →
      QueueRun queue (action :: actions) (answer :: answers) last

/-- An action puts values in at the end and takes them at the front. -/
theorem QueueStep.conservation {queue next : List Int64} {action : Action} {answer : Answer}
    (h : QueueStep queue action answer next) :
    queue ++ stored [action] = taken [answer] ++ next := by
  cases h with
  | append | write | decodeEmpty | readEmpty => rfl
  | decode | read => exact List.append_nil _

/-- Only an empty queue fails, and it says so. -/
theorem QueueStep.of_isFailure {queue next : List Int64} {action : Action} {answer : Answer}
    (h : QueueStep queue action answer next) (hfailure : answer.isFailure) :
    queue = [] ∧ (answer = .decoded (.error .empty) ∨ answer = .read (.error .endOfInput)) := by
  cases h with
  | decodeEmpty => exact ⟨rfl, .inl rfl⟩
  | readEmpty => exact ⟨rfl, .inr rfl⟩
  | append | write | decode | read => cases hfailure

namespace QueueRun

variable {queue last : List Int64} {actions : List Action} {answers : List Answer}

theorem length_eq (h : QueueRun queue actions answers last) :
    answers.length = actions.length := by
  induction h with
  | done => rfl
  | step _ _ ih => rw [List.length_cons, List.length_cons, ih]

theorem conservation (h : QueueRun queue actions answers last) :
    queue ++ stored actions = taken answers ++ last := by
  induction h with
  | done => exact List.append_nil _
  | @step queue next last action answer actions answers hstep _ ih =>
    have hstored : stored (action :: actions) = stored [action] ++ stored actions :=
      List.filterMap_append (l := [action])
    have htaken : taken (answer :: answers) = taken [answer] ++ taken answers :=
      List.filterMap_append (l := [answer])
    rw [hstored, htaken, ← List.append_assoc, hstep.conservation, List.append_assoc, ih,
      List.append_assoc]

theorem exists_take (h : QueueRun queue actions answers last) (count : Nat) :
    ∃ next, QueueRun queue (actions.take count) (answers.take count) next := by
  induction h generalizing count with
  | done => exact ⟨_, by rw [List.take_nil, List.take_nil]; exact .done⟩
  | step hstep _ ih =>
    cases count with
    | zero => exact ⟨_, .done⟩
    | succ count =>
      obtain ⟨next, hrun⟩ := ih count
      exact ⟨next, .step hstep hrun⟩

/-- Each answer is given by the queue that the actions before it have left. -/
theorem exists_step (h : QueueRun queue actions answers last) {count : Nat} {answer : Answer}
    (hanswer : answers[count]? = some answer) :
    ∃ before action after, QueueRun queue (actions.take count) (answers.take count) before ∧
      QueueStep before action answer after := by
  induction h generalizing count with
  | done => cases hanswer
  | step hstep _ ih =>
    cases count with
    | zero =>
      cases hanswer
      exact ⟨_, _, _, .done, hstep⟩
    | succ count =>
      obtain ⟨before, action, after, hrun, hlater⟩ := ih hanswer
      exact ⟨before, action, after, .step hstep hrun, hlater⟩

end QueueRun

/-! ## 3. Buffers -/

/-- The unread bytes are the encodings of the values in the queue. -/
def Holds (buffer : Buffer) (queue : List Int64) : Prop := buffer.unread = encodeAll queue

theorem readFrom_encode_append (value : Int64) (rest : List UInt8) :
    readFrom (encode value ++ rest) = (.ok value, rest) := by
  have hdecode := decode_encode_append value rest
  obtain ⟨-, hread⟩ := ((agreement _).value_iff value _).2 hdecode
  rw [hread, ← length_encode, List.drop_left]

variable {buffer : Buffer} {queue : List Int64}

theorem holds_append (h : buffer.Holds queue) (value : Int64) :
    buffer.unread ++ encode value = encodeAll (queue ++ [value]) := by
  rw [h, encodeAll_append]
  exact congrArg _ (List.append_nil _).symm

/-- A buffer answers what the queue answers that it holds, and it holds the next queue. -/
theorem perform_queueStep (h : buffer.Holds queue) (action : Action) :
    ∃ next, QueueStep queue action (buffer.perform action).1 next ∧
      (buffer.perform action).2.Holds next := by
  cases action with
  | append value =>
    refine ⟨queue ++ [value], ?_, ?_⟩
    · simp only [perform, Buffer.append, append_eq]
      exact .append
    · simp only [perform, Buffer.append, append_eq]
      exact holds_append h value
  | write value =>
    refine ⟨queue ++ [value], ?_, ?_⟩
    · simp only [perform, Buffer.write, writeTo_eq]
      exact .write
    · simp only [perform, Buffer.write, writeTo_eq]
      exact (List.append_nil _).trans (holds_append h value)
  | decode =>
    cases queue with
    | nil =>
      have hdecode : Varint.decode buffer.unread = .error .empty := by
        rw [h]
        rfl
      refine ⟨[], ?_, ?_⟩
      · simp only [perform, Buffer.decode, hdecode]
        exact .decodeEmpty
      · simp only [perform, Buffer.decode, hdecode]
        exact h
    | cons value queue =>
      have hdecode : Varint.decode buffer.unread = .ok (value, encodedLength value) := by
        rw [h, encodeAll_cons, decode_encode_append]
      refine ⟨queue, ?_, ?_⟩
      · simp only [perform, Buffer.decode, hdecode]
        exact .decode
      · simp only [perform, Buffer.decode, hdecode]
        rw [Holds, advance, h, encodeAll_cons, ← length_encode, List.drop_left]
  | read =>
    cases queue with
    | nil =>
      have hread : readFrom buffer.unread = (.error .endOfInput, []) := by
        rw [h]
        exact readFrom_nil
      refine ⟨[], ?_, ?_⟩
      · simp only [perform, Buffer.read, hread]
        exact .readEmpty
      · simp only [perform, Buffer.read, hread]
        exact List.drop_length
    | cons value queue =>
      have hread : readFrom buffer.unread = (.ok value, encodeAll queue) := by
        rw [h, encodeAll_cons, readFrom_encode_append]
      refine ⟨queue, ?_, ?_⟩
      · simp only [perform, Buffer.read, hread]
        exact .read
      · simp only [perform, Buffer.read, hread]
        rw [Holds, advance, h, encodeAll_cons, List.length_append, Nat.add_sub_cancel,
          List.drop_left]

theorem run_queueRun (h : buffer.Holds queue) (actions : List Action) :
    ∃ last, QueueRun queue actions (buffer.run actions).1 last ∧
      (buffer.run actions).2.Holds last := by
  induction actions generalizing buffer queue with
  | nil => exact ⟨queue, .done, h⟩
  | cons action actions ih =>
    obtain ⟨next, hstep, hnext⟩ := perform_queueStep h action
    obtain ⟨last, hrun, hlast⟩ := ih hnext
    exact ⟨last, .step hstep hrun, hlast⟩

/-- At any time the values that have been read are the first of those that have been
appended, in their order, and a reading fails only if they are all of them. A cut of
the bytes loses the values behind it and changes none in front of it: decoding over
and over gives these and then finds the end, or a value that is too short. -/
theorem lossless :
    (∀ actions : List Action,
      let answers := (Buffer.empty.run actions).1
      answers.length = actions.length ∧
      (∀ count, taken (answers.take count) <+: stored (actions.take count)) ∧
      ∀ count answer, answers[count]? = some answer → answer.isFailure →
        (answer = .decoded (.error .empty) ∨ answer = .read (.error .endOfInput)) ∧
        taken (answers.take count) = stored (actions.take count)) ∧
    ∀ (values : List Int64) (cut : Nat), cut ≤ (encodeAll values).length →
      ∃ whole, IsCut values cut whole ∧
        (decodeAll ((encodeAll values).take cut)).1 = values.take whole ∧
        let cause := (decodeAll ((encodeAll values).take cut)).2
        let start := (encodeAll (values.take whole)).length
        (start = cut ∧ cause = .empty) ∨
          ∃ value, values[whole]? = some value ∧ start < cut ∧
            cause = .truncated (lengthByte (value.toInt < 0) (payloadLength value))
              ((encode value).length - 1) (cut - start - 1) := by
  refine ⟨?_, fun values cut h => decodeAll_take h⟩
  intro actions answers
  have hempty : Buffer.empty.Holds [] := rfl
  obtain ⟨last, hrun, -⟩ := run_queueRun hempty actions
  refine ⟨hrun.length_eq, ?_, ?_⟩
  · intro count
    obtain ⟨next, hfirst⟩ := hrun.exists_take count
    exact ⟨next, hfirst.conservation.symm⟩
  · intro count answer hanswer hfailure
    obtain ⟨before, action, after, hfirst, hstep⟩ := hrun.exists_step hanswer
    obtain ⟨rfl, hcause⟩ := hstep.of_isFailure hfailure
    refine ⟨hcause, ?_⟩
    rw [← List.append_nil (taken _)]
    exact hfirst.conservation.symm

/-- Two values are read back, and then there is none. A cut behind two bytes is inside
the first value. -/
theorem lossless_two_values :
    let answers := (Buffer.empty.run [.append 1024, .write (-7), .read, .decode, .decode]).1
    answers[4]? = some (.decoded (.error .empty)) ∧ taken (answers.take 4) = [1024, -7] ∧
      (decodeAll ((encodeAll [1024, -7]).take 2)).1 = [] := by
  intro answers
  have hlast : answers[4]? = some (.decoded (.error .empty)) := rfl
  obtain ⟨hruns, hcuts⟩ := lossless
  obtain ⟨-, -, hfailures⟩ :=
    hruns [.append 1024, .write (-7), .read, .decode, .decode]
  obtain ⟨-, htaken⟩ := hfailures 4 _ hlast rfl
  obtain ⟨whole, hcut, hvalues, -⟩ := hcuts [1024, -7] 2 (by decide)
  have hwhole : ¬1 ≤ whole := mt (hcut.end_le_iff 1 (by decide)).2 (by decide)
  obtain rfl : whole = 0 := by omega
  exact ⟨hlast, htaken, hvalues⟩

end ExternalSort.Varint.Buffer
