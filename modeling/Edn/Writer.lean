import Edn.Stream.IoError
import Edn.Text.Utf8
import Edn.Value.Printer

/-!
# Writing values to something that may fill up or fail

A sink takes what it is given in pieces of its own choosing as long as there is room; after that a
write fails once, if the sink has a fault, and then takes nothing. `Sink.writeAll` gives it bytes
until all are taken: a write that was only interrupted is tried again, one that takes nothing is an
error. `Sink.writeValues` writes each value on a line of its own, piece by piece as it is printed,
and flushes at the end.
-/

namespace Edn

/-- Something that takes bytes. -/
structure Sink where
  /-- The bytes taken so far. -/
  taken : List UInt8
  /-- How many more bytes are taken, if there is a limit. -/
  room : Option Nat
  /-- The most that each of the next writes takes; writes after these take what there is room
  for. A write takes at least one byte if there is room for it. -/
  portions : List Nat
  /-- What the first write without room fails with. -/
  fault : Option IoError
  /-- What the first flush fails with. -/
  flushFault : Option IoError
  /-- How often the sink has been flushed. -/
  flushes : Nat
  deriving Repr, DecidableEq

namespace Sink

/-- A sink without limit or faults. -/
def unlimited : Sink := ⟨[], none, [], none, none, 0⟩

/-- How much of `size` bytes one write takes. -/
def share (sink : Sink) (size : Nat) : Nat :=
  let portion :=
    match sink.portions with
    | [] => size
    | most :: _ => max 1 most
  min portion (min size (sink.room.getD size))

/-- One write: how many bytes were taken, or a failure. -/
def write (sink : Sink) (data : List UInt8) : Except IoError Nat × Sink :=
  match sink.room, sink.fault with
  | some 0, some error => (.error error, { sink with fault := none })
  | _, _ =>
    let count := sink.share data.length
    (.ok count, { sink with
      taken := sink.taken ++ data.take count
      room := sink.room.map (· - count)
      portions := sink.portions.tail })

/-- Flushes the sink. -/
def flush (sink : Sink) : Except IoError Unit × Sink :=
  let flushed := { sink with flushes := sink.flushes + 1, flushFault := none }
  match sink.flushFault with
  | some error => (.error error, flushed)
  | none => (.ok (), flushed)

theorem fault_write_of_error {sink after : Sink} {data : List UInt8} {error : IoError}
    (failed : sink.write data = (.error error, after)) :
    sink.fault = some error ∧ after.fault = none := by
  unfold write at failed
  split at failed
  · next fault => cases failed; exact ⟨fault, rfl⟩
  · cases failed

theorem fault_write_of_ok {sink after : Sink} {data : List UInt8} {count : Nat}
    (written : sink.write data = (.ok count, after)) : after.fault = sink.fault := by
  unfold write at written
  split at written <;> cases written
  rfl

/-- Writes until everything is taken. -/
def writeAll (sink : Sink) (data : List UInt8) : Except IoError Unit × Sink :=
  if data = [] then (.ok (), sink)
  else
    match written : sink.write data with
    | (.error error, after) =>
      if error.kind = .interrupted then writeAll after data else (.error error, after)
    | (.ok 0, after) => (.error .nothingWritten, after)
    | (.ok (count + 1), after) => writeAll after (data.drop (count + 1))
termination_by data.length + sink.fault.toList.length
decreasing_by
  · simp [fault_write_of_error written]
  · rename_i nonempty
    have := List.length_pos_iff.2 nonempty
    simp only [fault_write_of_ok written, List.length_drop]
    omega

/-- Goes on with the sink, unless there was a failure. -/
def proceed (next : Sink → Except IoError Unit × Sink) :
    Except IoError Unit × Sink → Except IoError Unit × Sink
  | (.ok (), after) => next after
  | (.error error, after) => (.error error, after)

/-- Writes text in pieces, one after another. -/
def writePieces (sink : Sink) : List (List Char) → Except IoError Unit × Sink
  | [] => (.ok (), sink)
  | piece :: pieces =>
    proceed (writePieces · pieces) (sink.writeAll (Utf8.encode piece))

/-- Writes each value on a line of its own, in the pieces that it is printed in. -/
def writeLines (sink : Sink) : List Value → Except IoError Unit × Sink
  | [] => (.ok (), sink)
  | value :: values =>
    proceed (writeLines · values) (sink.writePieces (value.pieces ++ [['\n']]))

/-- Writes each value on a line of its own, and flushes once all are written. -/
def writeValues (sink : Sink) (values : List Value) : Except IoError Unit × Sink :=
  proceed flush (sink.writeLines values)

end Sink

end Edn
