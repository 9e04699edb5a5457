import ExternalSort.Varint.Stream

/-!
# A byte buffer with a read position

Values are appended at the end and read at a position. The position splits the
bytes in two, so a buffer is the bytes before it and the bytes behind it, and
no position can lie outside.

A value is appended or read in either of two ways: as a whole byte sequence
(`append`, `decode`) or as a stream (`write`, `read`). The ways differ only in
what a failed reading does: `decode` leaves the position, `read` moves it past
what it took.
-/

namespace ExternalSort.Varint

/-- The bytes in front of the read position and those behind it. -/
structure Buffer where
  consumed : List UInt8
  unread : List UInt8
  deriving DecidableEq, Repr

namespace Buffer

/-- No bytes, position zero. -/
def empty : Buffer := ⟨[], []⟩

/-- All bytes. -/
def bytes (buffer : Buffer) : List UInt8 := buffer.consumed ++ buffer.unread

/-- The number of bytes in front of the read position. -/
def position (buffer : Buffer) : Nat := buffer.consumed.length

/-- Moves the position over `count` bytes, or to the end. -/
def advance (buffer : Buffer) (count : Nat) : Buffer :=
  ⟨buffer.consumed ++ buffer.unread.take count, buffer.unread.drop count⟩

/-! ## 1. Writing at the end -/

/-- Appends raw bytes. -/
def push (buffer : Buffer) (bytes : List UInt8) : Buffer :=
  { buffer with unread := buffer.unread ++ bytes }

/-- Appends the encoding of a value and counts its bytes. -/
def append (buffer : Buffer) (value : Int64) : Nat × Buffer :=
  let (unread, count) := Varint.append buffer.unread value
  (count, { buffer with unread })

/-- Writes a value to the end as to a stream. -/
def write (buffer : Buffer) (value : Int64) : Except StreamError Nat × Buffer :=
  let (result, sink) := writeTo (.growing buffer.unread) value
  (result, { buffer with unread := sink.contents })

/-- Keeps the first `length` bytes. A position behind them moves to the end. -/
def truncate (buffer : Buffer) (length : Nat) : Buffer :=
  ⟨buffer.consumed.take length, buffer.unread.take (length - buffer.consumed.length)⟩

/-! ## 2. Reading at the position -/

/-- Decodes the value at the position and moves over it. A failure moves
nothing. -/
def decode (buffer : Buffer) : Except DecodeError (Int64 × Nat) × Buffer :=
  match Varint.decode buffer.unread with
  | .ok (value, used) => (.ok (value, used), buffer.advance used)
  | .error cause => (.error cause, buffer)

/-- Reads the value at the position as from a stream. A failure moves the
position too, over the bytes that were taken. -/
def read (buffer : Buffer) : Except StreamError Int64 × Buffer :=
  let (result, rest) := readFrom buffer.unread
  (result, buffer.advance (buffer.unread.length - rest.length))

end Buffer

end ExternalSort.Varint
