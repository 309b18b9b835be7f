import Edn.Proofs.Nodes
import Edn.Session.Script

/-!
# Every node is given back

A session takes a node, makes a value of it and gives the node back, before it takes another.
`NodeSource.recorded` is a source that keeps a record of the nodes it hands out and gets back, and
is otherwise as it was. Sessions over the two read alike, and whatever reads alike acts alike
(`Session.ReadAlike.run`); so the record can be looked at after any action of a script, and there
the nodes that have come back are those that have been handed out.
-/

namespace Edn

variable {σ τ : Type}

/-! ## Sources that keep a record -/

/-- What passes between a session and its source. -/
inductive Exchange
  /-- The source hands out a node. -/
  | handed (node : Node)
  /-- The source gets a node back. -/
  | returned (node : Node)
  deriving Repr

namespace Exchange

/-- The node, if it is handed out. -/
def handed? : Exchange → Option Node
  | handed node => some node
  | returned _ => none

/-- The node, if it comes back. -/
def returned? : Exchange → Option Node
  | handed _ => none
  | returned node => some node

/-- A node is handed out and comes back. -/
def loan (node : Node) : List Exchange := [handed node, returned node]

theorem filterMap_handed?_loans (nodes : List Node) :
    (nodes.flatMap loan).filterMap handed? = nodes := by
  induction nodes with
  | nil => rfl
  | cons node nodes ih => exact congrArg (node :: ·) ih

theorem filterMap_returned?_loans (nodes : List Node) :
    (nodes.flatMap loan).filterMap returned? = nodes := by
  induction nodes with
  | nil => rfl
  | cons node nodes ih => exact congrArg (node :: ·) ih

end Exchange

/-- The state of a source with the record that it keeps. -/
structure Recorded (σ : Type) where
  state : σ
  /-- What has passed, the first exchange first. -/
  record : List Exchange

/-- The nodes that have been handed out, in order. -/
def Recorded.handed (recorded : Recorded σ) : List Node :=
  recorded.record.filterMap Exchange.handed?

/-- The nodes that have come back, in order. -/
def Recorded.returned (recorded : Recorded σ) : List Node :=
  recorded.record.filterMap Exchange.returned?

/-- The source, keeping a record. -/
def NodeSource.recorded (source : NodeSource σ) : NodeSource (Recorded σ) where
  encoding recorded := source.encoding recorded.state
  readNode recorded chars :=
    let (node, state, chars) := source.readNode recorded.state chars
    (node, ⟨state, recorded.record ++ [.handed node]⟩, chars)
  release node recorded :=
    ⟨source.release node recorded.state, recorded.record ++ [.returned node]⟩

namespace Session

/-- The node that comes next. -/
def nextNode (session : Session σ) : Node :=
  (session.source.readNode session.state session.chars).1

/-- The nodes of the next readings. -/
def nodes : (count : Nat) → Session σ → List Node
  | 0, _ => []
  | count + 1, session => session.nextNode :: nodes count session.readNext.2

/-- The session over the same source, which has kept this record. -/
def recorded (session : Session σ) (record : List Exchange) : Session (Recorded σ) :=
  { session with source := session.source.recorded, state := ⟨session.state, record⟩ }

/-- Reading lends one node. -/
theorem readNext_recorded (session : Session σ) (record : List Exchange) :
    (session.recorded record).readNext =
      (session.readNext.1,
        session.readNext.2.recorded (record ++ Exchange.loan session.nextNode)) := by
  have both : record ++ [.handed session.nextNode] ++ [.returned session.nextNode] =
      record ++ Exchange.loan session.nextNode := List.append_assoc ..
  rw [← both]
  rfl

theorem nodes_succ (count : Nat) (session : Session σ) :
    session.nodes (count + 1) = session.nodes count ++ [(session.afterReads count).nextNode] := by
  induction count generalizing session with
  | zero => rfl
  | succ count ih => exact congrArg (session.nextNode :: ·) (ih session.readNext.2)

/-! ## Sessions that read alike -/

/-- Sessions that are related read the same values and stay related, whatever their iterators
remember. -/
structure ReadAlike (R : Session σ → Session τ → Prop) : Prop where
  value {a : Session σ} {b : Session τ} : R a b → a.readNext.1 = b.readNext.1
  onward {a : Session σ} {b : Session τ} : R a b → R a.readNext.2 b.readNext.2
  mark {a : Session σ} {b : Session τ} (done : Bool) : R a b → R { a with done } { b with done }
  done {a : Session σ} {b : Session τ} : R a b → a.done = b.done
  diagnostic {a : Session σ} {b : Session τ} : R a b → a.diagnostic = b.diagnostic

namespace ReadAlike

variable {R : Session σ → Session τ → Prop} {a : Session σ} {b : Session τ}

theorem next (alike : ReadAlike R) (related : R a b) :
    a.next.1 = b.next.1 ∧ R a.next.2 b.next.2 := by
  cases stopped : a.done with
  | true =>
    have stopped' : b.done = true := alike.done related ▸ stopped
    simp only [Session.next, stopped, stopped', if_true]
    exact ⟨trivial, related⟩
  | false =>
    have live : b.done = false := alike.done related ▸ stopped
    rw [next_of_live stopped, next_of_live live, alike.value related]
    exact ⟨rfl, alike.mark _ (alike.onward related)⟩

theorem collect (alike : ReadAlike R) (limit : Nat) (related : R a b) :
    (a.collect limit).1 = (b.collect limit).1 ∧ R (a.collect limit).2 (b.collect limit).2 := by
  induction limit generalizing a b with
  | zero => exact ⟨rfl, related⟩
  | succ limit ih =>
    obtain ⟨same, onward⟩ := alike.next related
    rw [Session.collect, Session.collect]
    cases taken : a.next with
    | mk value after =>
      cases taken' : b.next with
      | mk value' after' =>
        rw [taken, taken'] at same onward
        obtain rfl : value = value' := same
        cases value with
        | none => exact ⟨rfl, onward⟩
        | some value =>
          obtain ⟨values, last⟩ := ih onward
          exact ⟨congrArg (value :: ·) values, last⟩

theorem readAllAfter (alike : ReadAlike R) (limit : Nat) (before : List Value)
    (related : R a b) :
    (a.readAllAfter limit before).1 = (b.readAllAfter limit before).1 ∧
      R (a.readAllAfter limit before).2 (b.readAllAfter limit before).2 := by
  induction limit generalizing a b before with
  | zero => exact ⟨rfl, related⟩
  | succ limit ih =>
    have same := alike.value related
    have onward := alike.onward related
    rw [Session.readAllAfter, Session.readAllAfter]
    cases read : a.readNext with
    | mk value after =>
      cases read' : b.readNext with
      | mk value' after' =>
        rw [read, read'] at same onward
        obtain rfl : value = value' := same
        cases value with
        | endOfInput => exact ⟨rfl, onward⟩
        | error message => exact ⟨rfl, onward⟩
        | _ => exact ih _ onward

/-- The sessions of two scripts are related, and the scripts have been closed both or neither. -/
def Scripts (R : Session σ → Session τ → Prop) (one : Script σ) (other : Script τ) : Prop :=
  R one.session other.session ∧ one.closed = other.closed

/-- Whatever reads alike acts alike. -/
theorem act (alike : ReadAlike R) (limit : Nat) {one : Script σ} {other : Script τ}
    (related : Scripts R one other) (action : Action) :
    (one.act limit action).1 = (other.act limit action).1 ∧
      Scripts R (one.act limit action).2 (other.act limit action).2 := by
  obtain ⟨a, closed⟩ := one
  obtain ⟨b, closed'⟩ := other
  obtain ⟨related, rfl⟩ : R a b ∧ closed = closed' := related
  cases closed with
  | true => exact ⟨rfl, related, rfl⟩
  | false =>
    cases action with
    | readNext =>
      exact ⟨congrArg Outcome.value (alike.value related), alike.onward related, rfl⟩
    | next =>
      obtain ⟨same, onward⟩ := alike.next related
      exact ⟨congrArg Outcome.next same, onward, rfl⟩
    | collect =>
      obtain ⟨same, onward⟩ := alike.collect limit related
      exact ⟨congrArg Outcome.collected same, onward, rfl⟩
    | diagnostic =>
      refine ⟨?_, related, rfl⟩
      simp only [Script.act, Bool.false_eq_true, if_false, Session.lastDiagnostic,
        alike.diagnostic related]
    | readAll =>
      obtain ⟨same, onward⟩ := alike.readAllAfter limit [] related
      exact ⟨congrArg Outcome.values same, onward, rfl⟩
    | close => exact ⟨rfl, related, rfl⟩

/-- So scripts over them bring the same, and after every action their sessions are related. -/
theorem run (alike : ReadAlike R) (limit : Nat) {one : Script σ} {other : Script τ}
    (related : Scripts R one other) (actions : List Action) :
    (one.run limit actions).map Prod.fst = (other.run limit actions).map Prod.fst ∧
      ∀ step ∈ one.run limit actions, ∃ script, Scripts R step.2 script := by
  induction actions generalizing one other with
  | nil => exact ⟨rfl, List.forall_mem_nil _⟩
  | cons action actions ih =>
    obtain ⟨same, onward⟩ := alike.act limit related action
    obtain ⟨others, behind⟩ := ih onward
    exact ⟨congrArg₂ List.cons same others, List.forall_mem_cons.2 ⟨⟨_, onward⟩, behind⟩⟩

end ReadAlike

/-! ## The record of a script -/

/-- Some values have been read from the session that was there first, and the other session is over
the source that has kept a record of that. -/
def Kept (first : Session σ) (kept : Session (Recorded σ)) (plain : Session σ) : Prop :=
  ∃ count done, plain = { first.afterReads count with done } ∧
    kept = plain.recorded ((first.nodes count).flatMap Exchange.loan)

theorem readAlike_kept (first : Session σ) : ReadAlike (Kept first) where
  value := by
    rintro kept plain ⟨count, done, -, rfl⟩
    rw [readNext_recorded]
  onward := by
    rintro kept plain ⟨count, done, rfl, rfl⟩
    refine ⟨count + 1, done, ?_, ?_⟩
    · rw [afterReads_succ]
      rfl
    · rw [readNext_recorded, nodes_succ, List.flatMap_append]
      rfl
  mark := by
    rintro kept plain done ⟨count, -, rfl, rfl⟩
    exact ⟨count, done, rfl, rfl⟩
  done := by
    rintro kept plain ⟨count, done, rfl, rfl⟩
    rfl
  diagnostic := by
    rintro kept plain ⟨count, done, rfl, rfl⟩
    rfl

end Session

namespace Script

/-- A script that has been closed stays as it is. -/
theorem run_of_closed {limit : Nat} {script : Script σ} (closed : script.closed = true)
    {actions : List Action} {step : Outcome × Script σ} (among : step ∈ script.run limit actions) :
    step = (.closed, script) := by
  induction actions with
  | nil => cases among
  | cons action actions ih =>
    have still : script.act limit action = (.closed, script) := by
      simp only [act, closed, if_true]
    rw [run, still] at among
    rcases List.mem_cons.1 among with first | later
    · exact first
    · exact ih later

/-- Reading everything and closing consume the session. -/
theorem closed_act (limit : Nat) {script : Script σ} {action : Action}
    (consumes : action = .readAll ∨ action = .close) :
    (script.act limit action).2.closed = true := by
  unfold act
  split
  · assumption
  · rcases consumes with rfl | rfl <;> rfl

/-- Behind an action that consumes the session nothing changes. -/
theorem run_consumed {script after after' : Script σ} {actions : List Action}
    {limit index later : Nat} {action : Action} {outcome outcome' : Outcome} (asked : actions[index]? = some action)
    (consumes : action = .readAll ∨ action = .close) (lt : index < later)
    (came : (script.run limit actions)[index]? = some (outcome, after))
    (came' : (script.run limit actions)[later]? = some (outcome', after')) :
    outcome' = .closed ∧ after' = after := by
  induction actions generalizing script index later with
  | nil => cases asked
  | cons first actions ih =>
    obtain ⟨later, rfl⟩ := Nat.exists_eq_add_one_of_ne_zero (Nat.ne_zero_of_lt lt)
    cases index with
    | zero =>
      obtain rfl := Option.some.inj asked
      have came : script.act limit first = (outcome, after) := Option.some.inj came
      have closed : (script.act limit first).2.closed = true := closed_act limit consumes
      have still := run_of_closed closed (List.mem_of_getElem? came')
      rw [came] at still
      exact Prod.mk.inj still
    | succ index => exact ih asked (Nat.lt_of_succ_lt_succ lt) came came'

/-- Whatever a session does with its source, whatever source that is and however far it is read on:
after every action the
nodes that have come back are those that the source has handed out, in order, and each has come back
before the next one was handed out. They are the nodes that reading again and again takes from the
source, and keeping the record shows in no outcome. Behind an action that consumes the session
nothing is handed out and nothing comes back. -/
theorem returned_eq_handed (source : NodeSource σ) (state : σ) (chars : CharStream)
    (origin : Origin) (maxDepth limit : Nat) (actions : List Action) :
    let session := Session.start source state chars origin maxDepth
    let steps := (ofSession
      (Session.start source.recorded ⟨state, []⟩ chars origin maxDepth)).run limit actions
    steps.map Prod.fst = ((ofSession session).run limit actions).map Prod.fst ∧
    (∀ step ∈ steps,
      step.2.session.state.returned = step.2.session.state.handed ∧
      step.2.session.state.record = step.2.session.state.handed.flatMap Exchange.loan ∧
      ∃ count, step.2.session.state.handed = session.nodes count) ∧
    ∀ (index later : Nat) (action : Action) (outcome outcome' : Outcome)
      (after after' : Script (Recorded σ)), actions[index]? = some action →
      (action = .readAll ∨ action = .close) → index < later →
      steps[index]? = some (outcome, after) → steps[later]? = some (outcome', after') →
      outcome' = .closed ∧ after' = after := by
  intro session steps
  -- Nothing has been read at the start, and nothing is in the record.
  have related : Session.ReadAlike.Scripts (Session.Kept session)
      (ofSession (Session.start source.recorded ⟨state, []⟩ chars origin maxDepth))
      (ofSession session) := ⟨⟨0, false, rfl, rfl⟩, rfl⟩
  obtain ⟨same, kept⟩ := (Session.readAlike_kept session).run limit related actions
  refine ⟨same, ?_, ?_⟩
  · intro step among
    obtain ⟨plain, ⟨count, done, -, recorded⟩, -⟩ := kept step among
    have record : step.2.session.state.record = (session.nodes count).flatMap Exchange.loan := by
      rw [recorded]
      rfl
    have handed : step.2.session.state.handed = session.nodes count := by
      rw [Recorded.handed, record, Exchange.filterMap_handed?_loans]
    have returned : step.2.session.state.returned = session.nodes count := by
      rw [Recorded.returned, record, Exchange.filterMap_returned?_loans]
    exact ⟨returned.trans handed.symm, handed ▸ record, count, handed⟩
  · intro index later action outcome outcome' after after' asked consumes lt came came'
    exact run_consumed asked consumes lt came came'

end Script

end Edn
