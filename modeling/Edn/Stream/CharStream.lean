import Edn.Stream.Decoder

/-!
# Characters with their positions, one at a time

A stream hands out its characters one `poll` at a time and counts the polls; after its last
character comes the failure that cut it short, once, or nothing but the end.
`CharStream.ofDeliveries` is the stream of bytes as they arrive.
-/

namespace Edn

/-- A stream of characters that has been read up to some point. -/
structure CharStream where
  /-- The characters to come, each with its position. -/
  rest : List (Char × Position)
  /-- The failure that follows them, if it is not the end. -/
  failure : Option StreamError
  /-- How often the stream has been asked for a character. -/
  polls : Nat
  deriving Repr, DecidableEq

/-- What a stream answers when it is asked for a character. -/
inductive Polled
  | char (c : Char) (position : Position)
  | failed (error : StreamError)
  | ended
  deriving Repr, DecidableEq

namespace CharStream

/-- The stream of the bytes that arrive. -/
def ofDeliveries (deliveries : List Delivery) : CharStream :=
  let (rest, failure) := (Decoder.start deliveries).decode .origin
  ⟨rest, failure, 0⟩

/-- The stream of bytes that arrive in one piece and then end. -/
def ofBytes (data : List UInt8) : CharStream :=
  ofDeliveries [.bytes data]

/-- The stream of a text. -/
def ofText (text : List Char) : CharStream :=
  ⟨Position.origin.number text, none, 0⟩

/-- Asks for the next character. -/
def poll (stream : CharStream) : Polled × CharStream :=
  match stream.rest with
  | (c, position) :: rest => (.char c position, { stream with rest, polls := stream.polls + 1 })
  | [] =>
    match stream.failure with
    | some error => (.failed error, { stream with failure := none, polls := stream.polls + 1 })
    | none => (.ended, { stream with polls := stream.polls + 1 })

theorem length_poll_of_char {stream after : CharStream} {c : Char} {position : Position}
    (polled : stream.poll = (.char c position, after)) :
    after.rest.length + 1 = stream.rest.length := by
  rcases stream with ⟨_ | ⟨⟨c', position'⟩, rest⟩, failure, polls⟩
  · cases failure <;> cases polled
  · cases polled
    rfl

theorem length_poll_le (stream : CharStream) :
    stream.poll.2.rest.length ≤ stream.rest.length := by
  rcases stream with ⟨_ | ⟨_, rest⟩, failure, polls⟩
  · cases failure <;> exact Nat.le_refl _
  · exact Nat.le_succ _

end CharStream

end Edn
