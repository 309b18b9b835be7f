import Edn.Position
import Edn.Stream.IoError
import Edn.Text.Utf8

/-!
# From bytes as they arrive to characters

Bytes come in chunks of any size and may stop with a failure; an empty chunk is the end of the
input. One read brings one chunk, or the part of it that fits into the buffer. A decoder validates
what is in the buffer; the first bytes of a character whose other bytes are still to come are held
back until the next read, and then validated together with as many new bytes as a character can
have.
-/

namespace Edn

/-- What one read from a source of bytes brings. -/
inductive Delivery
  /-- The next bytes; none at all means the end of the input. -/
  | bytes (data : List UInt8)
  /-- The read fails. -/
  | failure (error : IoError)
  deriving Repr, DecidableEq

/-- Why a stream of characters stops short. -/
inductive StreamError
  /-- Reading the bytes failed. -/
  | io (error : IoError)
  /-- The bytes are not UTF-8; the first invalid sequence has this many. -/
  | invalidUtf8 (length : Nat)
  deriving Repr, DecidableEq

/-- The text of the failure. -/
def StreamError.message : StreamError → String
  | io error => "IO error: " ++ error.message
  | invalidUtf8 length => "invalid UTF-8 sequence of " ++ toString length ++ " byte(s)"

namespace Delivery

/-- How many bytes fit into the buffer. -/
def capacity : Nat := 8192

/-- The number of bytes in the chunks. -/
def size : List Delivery → Nat
  | [] => 0
  | .failure _ :: later => size later
  | .bytes data :: later => data.length + size later

/-- One read: the bytes that it brings, and what is left to read. -/
def read : List Delivery → Except IoError (List UInt8) × List Delivery
  | [] => (.ok [], [])
  | .failure error :: later => (.error error, later)
  | .bytes data :: later =>
    match data.drop capacity with
    | [] => (.ok data, later)
    | more => (.ok (data.take capacity), .bytes more :: later)

theorem size_read {deliveries later : List Delivery} {data : List UInt8}
    (brought : read deliveries = (.ok data, later)) :
    data.length + size later = size deliveries := by
  unfold read at brought
  split at brought
  · cases brought
    rfl
  · cases brought
  · split at brought
    · cases brought
      rfl
    · next data _ _ =>
      cases brought
      simp only [size, ← Nat.add_assoc, ← List.length_append, List.take_append_drop]

end Delivery

/-- Decoding that is under way. -/
structure Decoder where
  /-- The first bytes of a character that is not complete. -/
  held : List UInt8
  /-- The bytes that have been read and not yet decoded. -/
  buffer : List UInt8
  /-- What the reads to come bring. -/
  deliveries : List Delivery
  held_lt : held.length < 4

namespace Decoder

/-- Nothing has been read yet. -/
def start (deliveries : List Delivery) : Decoder :=
  ⟨[], [], deliveries, by decide⟩

/-- The bytes that are validated next. -/
def candidate (decoder : Decoder) : List UInt8 :=
  if decoder.held = [] then decoder.buffer
  else decoder.held ++ decoder.buffer.take (4 - decoder.held.length)

/-- Nothing is held any more, and the candidate's first `count` bytes are used up. -/
def consume (decoder : Decoder) (count : Nat) : Decoder :=
  { decoder with
    held := []
    buffer := decoder.buffer.drop (count - decoder.held.length)
    held_lt := by decide }

/-- The candidate is held until more bytes come. -/
def hold (decoder : Decoder) (few : decoder.candidate.length < 4) : Decoder :=
  { decoder.consume decoder.candidate.length with
    held := decoder.candidate
    held_lt := few }

/-- What decoding runs down: a byte is read, perhaps held, and then decoded. -/
def weight (decoder : Decoder) : Nat :=
  3 * Delivery.size decoder.deliveries + 2 * decoder.buffer.length + decoder.held.length

theorem weight_refill_lt {decoder : Decoder} {byte : UInt8} {bytes : List UInt8}
    {later : List Delivery} (empty : decoder.buffer = [])
    (brought : Delivery.read decoder.deliveries = (.ok (byte :: bytes), later)) :
    weight { decoder with buffer := byte :: bytes, deliveries := later } < decoder.weight := by
  have := Delivery.size_read brought
  simp only [weight, empty, List.length_cons, List.length_nil] at this ⊢
  omega

theorem weight_consume_lt {decoder : Decoder} {count : Nat} (positive : 0 < count)
    (filled : decoder.buffer ≠ []) : (decoder.consume count).weight < decoder.weight := by
  have := List.length_pos_iff.2 filled
  simp only [weight, consume, List.length_drop, List.length_nil]
  omega

theorem weight_hold_lt {decoder : Decoder} (few : decoder.candidate.length < 4)
    (filled : decoder.buffer ≠ []) : (decoder.hold few).weight < decoder.weight := by
  have := List.length_pos_iff.2 filled
  have := decoder.held_lt
  simp only [weight, hold, consume, candidate, List.length_drop]
  split
  · next empty => simp only [empty, List.length_nil]; omega
  · simp only [List.length_append, List.length_take]
    omega

/-- The characters to come, the first standing at `position`, and the failure that follows them. -/
def decode (position : Position) (decoder : Decoder) :
    List (Char × Position) × Option StreamError :=
  if empty : decoder.buffer = [] then
    match brought : Delivery.read decoder.deliveries with
    | (.error error, _) => ([], some (.io error))
    | (.ok [], _) =>
      ([], if decoder.held = [] then none else some (.invalidUtf8 decoder.held.length))
    | (.ok (byte :: bytes), later) =>
      have := weight_refill_lt empty brought
      decode position { decoder with buffer := byte :: bytes, deliveries := later }
  else
    match validated : Utf8.validate decoder.candidate with
    | (c :: text, _) =>
      have := weight_consume_lt (Utf8.length_encode_cons_pos c text) empty
      let (rest, failure) := decode (position.afterText (c :: text))
        (decoder.consume (Utf8.encode (c :: text)).length)
      (position.number (c :: text) ++ rest, failure)
    | ([], .invalid length) => ([], some (.invalidUtf8 length))
    | ([], .begun) =>
      have few := Utf8.length_lt_of_validate_begun validated
      have := weight_hold_lt few empty
      decode position (decoder.hold few)
    | ([], .whole) => ([], none)
termination_by decoder.weight

end Decoder

end Edn
