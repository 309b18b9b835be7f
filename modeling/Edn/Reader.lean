import Edn.Lexeme.Progress

/-!
# From lexemes to nodes

The reader keeps the constructs that are open, the innermost first. `advance` is all that it does
with one lexeme: an atom goes to the innermost construct, which may thereby be complete and go to
the next one; an opening lexeme opens a construct unless as many are open as may be; a closing
character completes the innermost collection. It looks at no character, and the lexemes know nothing
of what is open. `run` reads lexemes until a form that nothing surrounds is complete, and `readNode`
hands that form out.
-/

namespace Edn.Reader

/-- What one lexeme leads to. -/
inductive Progress
  /-- More lexemes are needed; these constructs are open, the innermost first. -/
  | going (stack : List Frame)
  /-- A form that nothing surrounds is complete, or the text has ended where it may, or there is
  a fault. -/
  | done (outcome : Except Fault (Option Node))
  deriving Repr

/-- A complete form goes to the innermost construct. -/
def deliver (node : Node) : List Frame → Progress
  | [] => .done (.ok (some node))
  | frame :: outer =>
    match frame.construct with
    | .collection _ => .going ({ frame with forms := node :: frame.forms } :: outer)
    | .wrapper kind => deliver (.wrapped kind node) outer
    | .tag text => deliver (.tagged (.ofText .utf8 .symbol text) node) outer
    | .discard => .going outer

/-- One lexeme. -/
def advance (maxDepth : Nat) (stack : List Frame) : Lexeme → Progress
  | .atom kind text => deliver (.ofText .utf8 kind (String.ofList text)) stack
  | .opening construct start =>
    if stack.length < maxDepth then .going (.opened construct start :: stack)
    else .done (.error ⟨.tooDeep, start⟩)
  | .closing c position =>
    match stack with
    | [] => .done (.error ⟨.unexpectedClosing c, position⟩)
    | frame :: outer =>
      match frame.close c position with
      | .ok node => deliver node outer
      | .error fault => .done (.error fault)
  | .ended =>
    match stack with
    | [] => .done (.ok none)
    | frame :: _ => .done (.error frame.unfinished)

theorem ne_ended_of_advance {maxDepth : Nat} {stack stack' : List Frame} {lexeme : Lexeme}
    (going : advance maxDepth stack lexeme = .going stack') : lexeme ≠ .ended := by
  rintro rfl
  cases stack <;> cases going

/-- Reads lexemes until a form that nothing surrounds is complete, from a point at which the
constructs of `stack` are open. -/
def run (settings : Settings) (stack : List Frame) (cursor : Cursor) :
    Except Fault (Option Node) × Cursor :=
  match reached : Lexeme.read settings cursor with
  | (.error fault, after) => (.error fault, after)
  | (.ok lexeme, after) =>
    match advanced : advance settings.maxDepth stack lexeme with
    | .done outcome => (outcome, after)
    | .going stack =>
      have := Lexeme.size_read_lt reached (ne_ended_of_advance advanced)
      run settings stack after
termination_by cursor.size

/-- Hands out the next form, the end, or an error. After an error only the end is handed out, and
nothing more is read. -/
def readNode (settings : Settings) (cursor : Cursor) : Node × Cursor :=
  if cursor.state.failed then (.endOfInput, cursor)
  else
    match run settings [] cursor with
    | (.ok (some node), after) => (node, after)
    | (.ok none, after) => (.endOfInput, after)
    | (.error fault, after) =>
      (.error fault, { after with state := { after.state with failed := true } })

end Edn.Reader
