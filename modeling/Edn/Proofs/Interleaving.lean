import Edn.Proofs.NodeShape
import Edn.Proofs.Polling
import Edn.Session.Script

/-!
# Reading and iterating in turn

The iterator remembers that it has stopped; reading neither looks at that nor changes it. So the two
can disagree, unless a session is settled behind every report: reading on brings the end and changes
nothing (`Session.Settles`). From such a session reading and iterating, in any order, bring what
reading alone brings (`Session.Settles.run`). A session over a stream is of this kind, because the
reader's state is finished behind every report.
-/

namespace Edn

/-- How an action that brings one value reports it. -/
def Action.shows : Action → Value → Outcome
  | next, value => .next value.shown?
  | _, value => .value value

theorem Value.isSentinel_of_errorMessage? {value : Value}
    (failed : value.errorMessage?.isSome = true) : value.isSentinel = true := by
  cases value <;> first | rfl | cases failed

namespace Session

variable {σ : Type} {session reads : Session σ} {script : Script σ}

/-- Reading on brings the end and changes nothing. -/
def Settled (session : Session σ) : Prop :=
  session.readNext = (.endOfInput, session)

/-- Behind every report the session is settled. -/
def Settles (session : Session σ) : Prop :=
  ∀ count, (session.afterReads count).readNext.1.isSentinel = true →
    (session.afterReads (count + 1)).Settled

namespace Settles

theorem onward (settles : session.Settles) : session.readNext.2.Settles :=
  fun count => settles (count + 1)

end Settles

/-! ## One action -/

/-- The script has the session that reading alone leads to, but for whether the iterator has
stopped; and it has stopped only if the session is settled. -/
def InStep (reads : Session σ) (script : Script σ) : Prop :=
  ∃ done, script = .ofSession { reads with done } ∧ (done = true → reads.Settled)

theorem act_next (limit : Nat) (session : Session σ) :
    (Script.ofSession session).act limit .next =
    (.next session.next.1, .ofSession session.next.2) :=
  rfl

/-- An action that brings one value keeps the script in step with reading. -/
theorem InStep.act (limit : Nat) (step : InStep reads script)
    (settles : reads.readNext.1.isSentinel = true → reads.readNext.2.Settled) {action : Action}
    (single : action = .readNext ∨ action = .next) :
    (script.act limit action).1 = action.shows reads.readNext.1 ∧
      InStep reads.readNext.2 (script.act limit action).2 := by
  obtain ⟨done, rfl, stopped⟩ := step
  rcases single with rfl | rfl
  · refine ⟨rfl, done, rfl, fun set => ?_⟩
    have settled := stopped set
    rwa [settled]
  · cases done with
    | true =>
      have settled : reads.readNext = (.endOfInput, reads) := stopped rfl
      rw [settled]
      exact ⟨rfl, true, rfl, stopped⟩
    | false =>
      have taken : next { reads with done := false } = _ := next_of_live rfl
      rw [act_next, taken]
      exact ⟨rfl, reads.readNext.1.isSentinel, rfl, settles⟩

/-- Reading and iterating in turn bring what reading alone brings. -/
theorem Settles.run (settles : reads.Settles) (step : InStep reads script) {actions : List Action}
    (single : ∀ action ∈ actions, action = .readNext ∨ action = .next) {limit index : Nat}
    {action : Action} {outcome : Outcome} {after : Script σ} (asked : actions[index]? = some action)
    (came : (script.run limit actions)[index]? = some (outcome, after)) :
    outcome = action.shows (reads.afterReads index).readNext.1 ∧
      InStep (reads.afterReads (index + 1)) after := by
  induction actions generalizing reads script index with
  | nil => cases asked
  | cons first actions ih =>
    obtain ⟨own, single⟩ := List.forall_mem_cons.1 single
    have onward := step.act limit (settles 0) own
    cases index with
    | zero =>
      obtain rfl := Option.some.inj asked
      have came : script.act limit first = (outcome, after) := Option.some.inj came
      rwa [came] at onward
    | succ index => exact ih settles.onward onward.2 single asked came

end Session

namespace Session

open Grammar

/-- What one reading of a session brings, and what it does to the noted fault. -/
inductive Brings (texts : String → Prop) (session : Session TextScan) : Prop
  | data : session.readNext.1.Data texts →
    session.readNext.2.diagnostic = session.diagnostic → Brings texts session
  | ended : session.readNext.1 = .endOfInput → session.readNext.2.diagnostic = session.diagnostic →
    session.readNext.2.Settled → Brings texts session
  | failed : session.readNext.1 = malformed → session.readNext.2.diagnostic.isSome = true →
    session.readNext.2.Settled → Brings texts session

namespace Brings

variable {texts : String → Prop} {session : Session TextScan}

theorem settled (brings : Brings texts session) (report : session.readNext.1.isSentinel = true) :
    session.readNext.2.Settled := by
  cases brings with
  | data data _ => exact absurd report (by simp [data.not_sentinel])
  | ended _ _ settled => exact settled
  | failed _ _ settled => exact settled

theorem diagnostic (brings : Brings texts session) :
    session.readNext.2.diagnostic.isSome = true ↔
      session.diagnostic.isSome = true ∨ session.readNext.1.errorMessage?.isSome = true := by
  cases brings with
  | data data same =>
    have quiet : ¬ session.readNext.1.errorMessage?.isSome = true := fun failed =>
      absurd (Value.isSentinel_of_errorMessage? failed) (by simp [data.not_sentinel])
    rw [same, or_iff_left quiet]
  | ended ended same _ => simp [ended, same, Value.errorMessage?]
  | failed failed noticed _ => simp [failed, noticed, malformed, Value.errorMessage?]

end Brings

end Session

end Edn
