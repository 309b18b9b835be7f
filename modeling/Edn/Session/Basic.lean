import Edn.NodeSource
import Edn.Origin
import Edn.Value.OfNode

/-!
# Sessions: one stream, one source of nodes, one value at a time

`Session.readNext` is the one step: it asks the source for a node, turns it into a value, and gives
the node back. The end and errors are values here. `Session.next` is the iterator over the values,
which shows the end by stopping and stops after an error; `Session.collect` runs it.
`Session.readAll` reads everything or, if anything is wrong, gives the error alone. A source need
not ever stop, so the two that run on take a limit.
-/

namespace Edn

/-- Reading that is under way. -/
structure Session (σ : Type) where
  source : NodeSource σ
  state : σ
  chars : CharStream
  /-- What is being read. -/
  origin : Origin
  /-- How deep compounds may nest in a value. -/
  maxDepth : Nat
  /-- The last fault that the source reported. -/
  diagnostic : Option Diagnostic
  /-- Whether the iterator has stopped. -/
  done : Bool

namespace Session

variable {σ : Type}

/-- Reading that has not begun. -/
def start (source : NodeSource σ) (state : σ) (chars : CharStream) (origin : Origin)
    (maxDepth : Nat) : Session σ :=
  { source, state, chars, origin, maxDepth, diagnostic := none, done := false }

/-- What is noted when a node has been handed out. -/
def noted (origin : Origin) (before : Option Diagnostic) : Node → Option Diagnostic
  | .error fault => some ⟨fault, origin⟩
  | _ => before

/-- The next value. -/
def readNext (session : Session σ) : Value × Session σ :=
  let encoding := session.source.encoding session.state
  let (node, state, chars) := session.source.readNode session.state session.chars
  let value := Value.ofNode encoding session.maxDepth node
  (value, { session with
    state := session.source.release node state
    chars
    diagnostic := noted session.origin session.diagnostic node })

/-- The text of the last fault that the source reported. -/
def lastDiagnostic (session : Session σ) : Option String :=
  session.diagnostic.map Diagnostic.render

/-- The next value of the iterator. -/
def next (session : Session σ) : Option Value × Session σ :=
  if session.done then (none, session)
  else
    match session.readNext with
    | (.endOfInput, session) => (none, { session with done := true })
    | (.error message, session) => (some (.error message), { session with done := true })
    | (value, session) => (some value, session)

/-- The values up to where the iterator stops, but no more than `limit`. -/
def collect : (limit : Nat) → Session σ → List Value × Session σ
  | 0, session => ([], session)
  | limit + 1, session =>
    match session.next with
    | (none, session) => ([], session)
    | (some value, session) =>
      let (values, session) := collect limit session
      (value :: values, session)

/-- Reads on after the values read before, the last one first. -/
def readAllAfter : (limit : Nat) → List Value → Session σ → List Value × Session σ
  | 0, before, session => (before.reverse, session)
  | limit + 1, before, session =>
    match session.readNext with
    | (.endOfInput, session) => (before.reverse, session)
    | (.error message, session) => ([.error message], session)
    | (value, session) => readAllAfter limit (value :: before) session

/-- All values up to the end, or the first error alone; no more than `limit` values are read. -/
def readAll (limit : Nat) (session : Session σ) : List Value × Session σ :=
  readAllAfter limit [] session

/-! ## Sessions over text -/

/-- A session over a stream, read by `lexical` settings and limited by `settings`. -/
def ofStream (lexical settings : Settings) (origin : Origin) (chars : CharStream) :
    Session TextScan :=
  start .ofText ⟨lexical, .fresh⟩ chars origin settings.maxDepth

/-- A limit that no session over text reaches. Every form takes at least one character, so there
are no more forms than characters; then come the end and one call more. -/
def limit (session : Session TextScan) : Nat :=
  (Cursor.mk session.chars session.state.scan).size + 2

/-- What a stream that was given without a name is called. -/
def unnamed : Origin := .named "reader"

end Session

end Edn
