import Edn.Session.Basic

/-!
Running a session by named actions, one after another. An action may consume the session; every
action after that only reports that it is closed. A source need not ever stop, so the actions that
run on to the end take a limit, as `Session.collect` and `Session.readAll` do.
-/

namespace Edn

/-- What can be done with a session. -/
inductive Action
  /-- Read the next value. -/
  | readNext
  /-- Ask the iterator for a value. -/
  | next
  /-- Run the iterator until it stops. -/
  | collect
  /-- Look at the last fault. -/
  | diagnostic
  /-- Read everything and close. -/
  | readAll
  /-- Close. -/
  | close
  deriving Repr, DecidableEq

/-- What an action brings. -/
inductive Outcome
  | value (value : Value)
  | next (value : Option Value)
  | collected (values : List Value)
  | diagnostic (text : Option String)
  | values (values : List Value)
  | closed
  deriving Repr, DecidableEq

/-- A session, and whether it has been consumed. -/
structure Script (σ : Type) where
  session : Session σ
  closed : Bool

namespace Script

variable {σ : Type}

/-- A script at its start. -/
def ofSession (session : Session σ) : Script σ := ⟨session, false⟩

/-- One action. If it runs on, it reads no more than `limit` values. -/
def act (limit : Nat) (script : Script σ) (action : Action) : Outcome × Script σ :=
  if script.closed then (.closed, script)
  else
    match action with
    | .readNext =>
      let (value, session) := script.session.readNext
      (.value value, ⟨session, false⟩)
    | .next =>
      let (value, session) := script.session.next
      (.next value, ⟨session, false⟩)
    | .collect =>
      let (values, session) := script.session.collect limit
      (.collected values, ⟨session, false⟩)
    | .diagnostic => (.diagnostic script.session.lastDiagnostic, script)
    | .readAll =>
      let (values, session) := script.session.readAll limit
      (.values values, ⟨session, true⟩)
    | .close => (.closed, { script with closed := true })

/-- Actions in order, each with its outcome and the script after it. -/
def run (limit : Nat) (script : Script σ) : List Action → List (Outcome × Script σ)
  | [] => []
  | action :: actions =>
    let step := script.act limit action
    step :: run limit step.2 actions

end Script

end Edn
