import ExternalSort.Attempt
import ExternalSort.Varint.Basic

/-!
# Integers on byte streams

Reading takes bytes from the front of a source, writing puts bytes into a
sink. Both are made of small steps that can fail in between, and a step that
fails has still moved the stream. So both are attempts, which keep their state
when they fail.

* `readValue` takes the first byte, then the payload that the byte announces.
  A source that ends too early is used up (`readFrom_payload`).
* `writeValue` puts the first byte, then the payload. A sink without enough
  room is filled. The two steps together do what one step with the whole
  encoding would do (`writeTo_eq`).
-/

namespace ExternalSort.Varint

/-- Why a value could not be read from a source or written to a sink. -/
inductive StreamError where
  /-- The source ended inside the value. -/
  | endOfInput
  /-- The sink was full before the value was written. -/
  | noRoom
  /-- The bytes are there but are not an encoding. -/
  | malformed (cause : DecodeError)
  deriving DecidableEq, Repr

/-- The text of the error. -/
def StreamError.message : StreamError → String
  | .endOfInput => "io error: failed to fill whole buffer"
  | .noRoom => "io error: failed to write whole buffer"
  | .malformed cause => "malformed varint: " ++ cause.message

/-! ## 1. Reading -/

/-- An attempt that takes bytes from a source. -/
abbrev Reading := Attempt (List UInt8) StreamError

/-- Takes one byte. -/
def takeByte : Reading UInt8 := do
  match ← get with
  | [] => throw .endOfInput
  | byte :: rest =>
    set rest
    return byte

/-- Takes `count` bytes. When fewer are left it takes those and fails. -/
def takeBytes (count : Nat) : Reading (List UInt8) := do
  let source ← get
  set (source.drop count)
  if source.length < count then throw .endOfInput
  return source.take count

@[simp] theorem after_takeByte_nil : Attempt.after takeByte [] = (.error .endOfInput, []) := rfl

@[simp] theorem after_takeByte_cons (byte : UInt8) (rest : List UInt8) :
    Attempt.after takeByte (byte :: rest) = (.ok byte, rest) := rfl

@[simp] theorem after_takeBytes (count : Nat) (source : List UInt8) :
    Attempt.after (takeBytes count) source
      = (if source.length < count then .error .endOfInput else .ok (source.take count),
          source.drop count) := by
  unfold takeBytes
  simp only [Attempt.after_bind, Attempt.after_get, Attempt.after_set]
  split <;> simp

/-- Reads one value. -/
def readValue : Reading Int64 := do
  let byte ← takeByte
  match Head.ofByte byte.toInt8 with
  | .single value => return value
  | .payload negative length =>
    let payload ← takeBytes length
    match readPayload byte.toInt8 negative payload with
    | .ok value => return value
    | .error cause => throw (.malformed cause)

/-- Reads one value from the front of `bytes`; also gives what is left. -/
def readFrom (bytes : List UInt8) : Except StreamError Int64 × List UInt8 :=
  Attempt.after readValue bytes

theorem readFrom_nil : readFrom [] = (.error .endOfInput, []) := rfl

theorem readFrom_single {byte : UInt8} {value : Int64}
    (h : Head.ofByte byte.toInt8 = .single value) (rest : List UInt8) :
    readFrom (byte :: rest) = (.ok value, rest) := by
  simp [readFrom, readValue, Attempt.after_bind, h]

/-- A payload is taken as far as there is one, whether it is canonical or not. -/
theorem readFrom_payload {byte : UInt8} {negative : Bool} {length : Nat}
    (h : Head.ofByte byte.toInt8 = .payload negative length) (rest : List UInt8) :
    readFrom (byte :: rest)
      = (if rest.length < length then .error .endOfInput
          else (readPayload byte.toInt8 negative (rest.take length)).mapError .malformed,
          rest.drop length) := by
  simp only [readFrom, readValue, Attempt.after_bind, after_takeByte_cons, h, after_takeBytes]
  by_cases hshort : rest.length < length
  · simp only [hshort, if_true]
  · simp only [hshort, if_false]
    cases readPayload byte.toInt8 negative (rest.take length) <;> rfl

/-! ## 2. Writing -/

/-- A place for bytes: those written so far, and, for a slice of fixed size,
the part that is still untouched. -/
structure Sink where
  written : List UInt8
  untouched : Option (List UInt8)
  deriving DecidableEq, Repr

namespace Sink

/-- A sink that grows behind `written` without bound. -/
def growing (written : List UInt8) : Sink := ⟨written, none⟩

/-- A slice of `room` zero bytes. -/
def zeroed (room : Nat) : Sink := ⟨[], some (List.replicate room 0)⟩

/-- All bytes of the sink, written or not. -/
def contents (sink : Sink) : List UInt8 := sink.written ++ sink.untouched.getD []

/-- The number of bytes that a slice still takes. -/
def room (sink : Sink) : Nat := (sink.untouched.getD []).length

/-- Writes as much of `bytes` as fits. -/
def fill (sink : Sink) (bytes : List UInt8) : Sink :=
  match sink.untouched with
  | none => growing (sink.written ++ bytes)
  | some rest => ⟨sink.written ++ bytes.take rest.length, some (rest.drop bytes.length)⟩

/-- There is room for `count` more bytes. -/
def hasRoom (sink : Sink) (count : Nat) : Bool :=
  match sink.untouched with
  | none => true
  | some rest => count ≤ rest.length

theorem fill_fill (sink : Sink) (front back : List UInt8) :
    (sink.fill front).fill back = sink.fill (front ++ back) := by
  rcases sink with ⟨written, _ | rest⟩
  · simp [fill, growing]
  · simp only [fill, List.length_drop, List.drop_drop, List.length_append, List.append_assoc,
      List.take_append]

theorem fill_of_full {sink : Sink} (h : sink.hasRoom 1 = false) (bytes : List UInt8) :
    sink.fill bytes = sink := by
  rcases sink with ⟨written, _ | rest⟩
  · cases h
  · have hrest : rest = [] := by
      simpa [hasRoom] using h
    simp [fill, hrest]

theorem hasRoom_fill {sink : Sink} {bytes : List UInt8} (h : sink.hasRoom bytes.length)
    (count : Nat) : (sink.fill bytes).hasRoom count = sink.hasRoom (bytes.length + count) := by
  rcases sink with ⟨written, _ | rest⟩
  · rfl
  · simp only [hasRoom, fill, List.length_drop, decide_eq_decide, decide_eq_true_eq] at *
    omega

theorem hasRoom_of_le {sink : Sink} {count more : Nat} (hle : count ≤ more)
    (h : sink.hasRoom more) : sink.hasRoom count := by
  rcases sink with ⟨written, _ | rest⟩
  · rfl
  · simp only [hasRoom, decide_eq_true_eq] at *
    omega

end Sink

/-- An attempt that puts bytes into a sink. -/
abbrev Writing := Attempt Sink StreamError

/-- Puts `bytes`. When they do not all fit it puts those that do and fails. -/
def putBytes (bytes : List UInt8) : Writing Unit := do
  let sink ← get
  set (sink.fill bytes)
  if !sink.hasRoom bytes.length then throw .noRoom

@[simp] theorem after_putBytes (bytes : List UInt8) (sink : Sink) :
    Attempt.after (putBytes bytes) sink
      = (if sink.hasRoom bytes.length then .ok () else .error .noRoom, sink.fill bytes) := by
  unfold putBytes
  simp only [Attempt.after_bind, Attempt.after_get, Attempt.after_set]
  cases sink.hasRoom bytes.length <;> simp

/-- Writes one value and counts its bytes. -/
def writeValue (value : Int64) : Writing Nat := do
  if inBand value then
    putBytes (lowBytes 1 value)
    return 1
  let length := payloadLength value
  putBytes [(lengthByte (value.toInt < 0) length).toUInt8]
  putBytes (lowBytes length value)
  return length + 1

/-- Writes one value into `sink`; also gives the sink afterwards. -/
def writeTo (sink : Sink) (value : Int64) : Except StreamError Nat × Sink :=
  Attempt.after (writeValue value) sink

/-- Writing succeeds if there is room for the whole encoding. In any case as much
of the encoding is written as fits. -/
theorem writeTo_eq (sink : Sink) (value : Int64) :
    writeTo sink value
      = (if sink.hasRoom (encodedLength value) then .ok (encodedLength value) else .error .noRoom,
          sink.fill (encode value)) := by
  unfold writeTo writeValue encodedLength encode
  cases inBand value
  · simp only [Bool.false_eq_true, if_false, Attempt.after_bind, after_putBytes,
      List.length_singleton, Attempt.after_pure]
    cases hfirst : sink.hasRoom 1
    · have hwhole : sink.hasRoom (payloadLength value + 1) = false :=
        Bool.eq_false_iff.2 fun h =>
          Bool.eq_false_iff.1 hfirst (Sink.hasRoom_of_le (Nat.le_add_left 1 _) h)
      simp only [hwhole, Bool.false_eq_true, if_false, Sink.fill_of_full hfirst]
    · have hroom : ∀ (byte : UInt8) (count : Nat),
          (sink.fill [byte]).hasRoom count = sink.hasRoom (1 + count) :=
        fun _ count => Sink.hasRoom_fill hfirst count
      simp only [if_true, hroom, Sink.fill_fill, length_lowBytes, List.singleton_append]
      rw [Nat.add_comm 1]
      cases sink.hasRoom (payloadLength value + 1) <;> rfl
  · simp only [if_true, Attempt.after_bind, after_putBytes, length_lowBytes, Attempt.after_pure]
    cases sink.hasRoom 1 <;> rfl

end ExternalSort.Varint
