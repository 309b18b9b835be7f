import Edn.Fault

/-!
# A place in a stream of characters, with room to give one character back

`Cursor.next` takes a character: the one given back, or else the next one of the stream. A stream
that has ended or failed is not asked again. `Cursor.unread` gives one back, to a caller who shows
that no other is waiting to be taken again. `Cursor.size` counts the characters that are still to
be taken; it is what every loop over a cursor runs down.
-/

namespace Edn

/-- What is remembered between two forms read from a stream. -/
structure ScanState where
  /-- The character that was given back. -/
  pending : Option (Char × Position)
  /-- The place of the last character taken from the stream. -/
  lastPosition : Position
  /-- Whether the stream has ended or failed. -/
  exhausted : Bool
  /-- Whether an error has been handed out. -/
  failed : Bool
  deriving Repr, DecidableEq

/-- Nothing has been read yet. -/
def ScanState.fresh : ScanState := ⟨none, .origin, false, false⟩

/-- A stream of characters with the state of reading it. -/
structure Cursor where
  chars : CharStream
  state : ScanState
  deriving Repr, DecidableEq

/-- What taking a character brings. -/
inductive Taken
  | char (c : Char) (position : Position)
  | ended
  | failed (fault : Fault)
  deriving Repr, DecidableEq

namespace Cursor

/-- Takes the next character. -/
def next (cursor : Cursor) : Taken × Cursor :=
  match cursor.state.pending with
  | some (c, position) => (.char c position, ⟨cursor.chars, { cursor.state with pending := none }⟩)
  | none =>
    if cursor.state.exhausted then (.ended, cursor)
    else
      match cursor.chars.poll with
      | (.char c position, chars) =>
        (.char c position, ⟨chars, { cursor.state with lastPosition := position }⟩)
      | (.failed error, chars) =>
        (.failed ⟨.stream error, cursor.state.lastPosition⟩,
          ⟨chars, { cursor.state with exhausted := true }⟩)
      | (.ended, chars) => (.ended, ⟨chars, { cursor.state with exhausted := true }⟩)

/-- Gives a character back, to be taken again. There is room for one. -/
def unread (cursor : Cursor) (c : Char) (position : Position)
    (_ : cursor.state.pending = none) : Cursor :=
  ⟨cursor.chars, { cursor.state with pending := some (c, position) }⟩

/-- Nothing is left to be taken again when a cursor has been asked for a character. -/
theorem pending_next (cursor : Cursor) : cursor.next.2.state.pending = none := by
  rcases cursor with ⟨chars, ⟨_ | given, last, _ | _, failed⟩⟩
  · simp only [next, Bool.false_eq_true, if_false]
    split <;> rfl
  · rfl
  · rfl
  · rfl

/-- So there is room for the character that has just been taken. -/
theorem free_of_next {cursor after : Cursor} {taken : Taken}
    (found : cursor.next = (taken, after)) : after.state.pending = none := by
  have free := cursor.pending_next
  rwa [found] at free

/-- The number of characters still to be taken. -/
def size (cursor : Cursor) : Nat :=
  cursor.chars.rest.length + cursor.state.pending.toList.length

theorem size_next_of_char {cursor after : Cursor} {c : Char} {position : Position}
    (taken : cursor.next = (.char c position, after)) : after.size + 1 = cursor.size := by
  rcases cursor with ⟨chars, ⟨_ | ⟨c', position'⟩, last, exhausted, failed⟩⟩
  · cases exhausted with
    | true => cases taken
    | false =>
      simp only [next, Bool.false_eq_true, if_false] at taken
      split at taken
      · next polled =>
        have shorter := CharStream.length_poll_of_char polled
        cases taken
        simpa [size] using shorter
      · cases taken
      · cases taken
  · cases taken
    rfl

theorem size_next_le (cursor : Cursor) : cursor.next.2.size ≤ cursor.size := by
  have shorter := CharStream.length_poll_le cursor.chars
  rcases cursor with ⟨chars, ⟨_ | ⟨c', position'⟩, last, exhausted, failed⟩⟩
  · cases exhausted with
    | true => exact Nat.le_refl _
    | false =>
      simp only [next, Bool.false_eq_true, if_false]
      split <;> rename_i polled <;> rw [polled] at shorter <;> exact shorter
  · exact Nat.le_succ _

theorem size_unread_le (cursor : Cursor) (c : Char) (position : Position)
    (free : cursor.state.pending = none) :
    (cursor.unread c position free).size ≤ cursor.size + 1 := by
  simp [size, unread]

end Cursor

end Edn
