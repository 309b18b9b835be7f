import Edn.Proofs.Decoding
import Edn.Proofs.Observing

/-!
# A finished stream is not asked again

`Cursor.Asks` keeps account of the answers that lie between two states of a cursor: they are those
that the stream gives when it is asked so often, and `Answers` allows an answer other than a
character only as the last one, and none behind it. Taking a character keeps this account, so
every reader does (`Observes.keeps`), and so does any number of calls that share a state, whatever
streams they are given. Behind the end and behind an error the state is `Finished`, and a call that
finds it so asks nothing.
-/

namespace Edn

open Lexeme (Scanned)

/-! ## Accounts of answers -/

/-- The stream goes on behind this answer. -/
def Polled.isChar : Polled → Bool
  | .char _ _ => true
  | _ => false

/-- Answers that are given while streams are asked: `finished` says before and after whether one
has answered with its end or a failure. -/
inductive Answers : (finished : Bool) → List Polled → (finished : Bool) → Prop
  | nil {finished : Bool} : Answers finished [] finished
  | char {c : Char} {position : Position} {others : List Polled} {finished : Bool} :
    Answers false others finished → Answers false (.char c position :: others) finished
  | last {answer : Polled} : answer.isChar = false → Answers false [answer] true

namespace Answers

variable {before between after : Bool} {answers more : List Polled}

theorem append (first : Answers before answers between) (second : Answers between more after) :
    Answers before (answers ++ more) after := by
  induction first with
  | nil => exact second
  | char _ ih => exact .char (ih second)
  | last stops =>
    cases second with
    | nil => exact .last stops

/-- Nothing comes behind an answer that is no character. -/
theorem eq_nil_of_stop {front behind : List Polled} {answer : Polled}
    (given : Answers before (front ++ answer :: behind) after) (stops : answer.isChar = false) :
    behind = [] := by
  induction front generalizing before with
  | nil =>
    cases given with
    | char _ => cases stops
    | last _ => rfl
  | cons first front ih =>
    rw [List.cons_append] at given
    generalize split : front ++ answer :: behind = others at given
    cases given with
    | char given =>
      rw [← split] at given
      exact ih given
    | last _ => exact absurd split (List.append_ne_nil_of_right_ne_nil _ (List.cons_ne_nil _ _))

end Answers

namespace CharStream

/-- The stream when it has been asked some number of times. -/
def asked : (count : Nat) → CharStream → CharStream
  | 0, stream => stream
  | count + 1, stream => asked count stream.poll.2

theorem asked_add (count more : Nat) (stream : CharStream) :
    asked (count + more) stream = asked more (asked count stream) := by
  induction count generalizing stream with
  | zero => rw [Nat.zero_add, asked]
  | succ count ih => rw [Nat.add_right_comm, asked, ih, asked]

theorem polled_add (count more : Nat) (stream : CharStream) :
    polled (count + more) stream = polled count stream ++ polled more (asked count stream) := by
  induction count generalizing stream with
  | zero => rw [Nat.zero_add, polled, asked, List.nil_append]
  | succ count ih => rw [Nat.add_right_comm, polled, ih, polled, asked, List.cons_append]

theorem polls_poll (stream : CharStream) : stream.poll.2.polls = stream.polls + 1 := by
  rcases stream with ⟨_ | ⟨_, rest⟩, _ | error, polls⟩ <;> rfl

theorem polls_asked (count : Nat) (stream : CharStream) :
    (asked count stream).polls = stream.polls + count := by
  induction count generalizing stream with
  | zero => rfl
  | succ count ih => rw [asked, ih, polls_poll, Nat.add_assoc, Nat.add_comm 1]

end CharStream

/-- Between these two cursors the stream has been asked and has given the answers. -/
structure Cursor.Asks (before : Cursor) (answers : List Polled) (after : Cursor) : Prop where
  answered : before.chars.polled answers.length = answers
  left : after.chars = before.chars.asked answers.length
  account : Answers before.state.exhausted answers after.state.exhausted

namespace Cursor

variable {cursor before between after : Cursor} {answers more : List Polled}

theorem asks_nothing (chars : before.chars = after.chars)
    (exhausted : before.state.exhausted = after.state.exhausted) : before.Asks [] after :=
  ⟨rfl, chars.symm, by rw [exhausted]; exact .nil⟩

theorem Asks.trans (first : before.Asks answers between) (second : between.Asks more after) :
    before.Asks (answers ++ more) after := by
  refine ⟨?_, ?_, first.account.append second.account⟩
  · rw [List.length_append, CharStream.polled_add, first.answered, ← first.left, second.answered]
  · rw [List.length_append, CharStream.asked_add, ← first.left, second.left]

/-- The account says how often the stream has been asked. -/
theorem Asks.polls (asks : before.Asks answers after) :
    after.chars.polls = before.chars.polls + answers.length := by
  rw [asks.left, CharStream.polls_asked]

/-- Taking a character asks the stream at most once, and not when it is finished. -/
theorem asks_next (cursor : Cursor) : ∃ answers, cursor.Asks answers cursor.next.2 := by
  rcases cursor with ⟨chars, ⟨_ | given, last, _ | _, failed⟩⟩
  · refine ⟨[chars.poll.1], ?_⟩
    simp only [next, Bool.false_eq_true, if_false]
    rcases polled : chars.poll with ⟨⟨c, position⟩ | error | _, later⟩
    all_goals refine ⟨?_, ?_, ?_⟩
    · simp [CharStream.polled, polled]
    · simp [CharStream.asked, polled]
    · exact .char .nil
    · simp [CharStream.polled, polled]
    · simp [CharStream.asked, polled]
    · exact .last rfl
    · simp [CharStream.polled, polled]
    · simp [CharStream.asked, polled]
    · exact .last rfl
  · exact ⟨[], asks_nothing rfl rfl⟩
  · exact ⟨[], asks_nothing rfl rfl⟩
  · exact ⟨[], asks_nothing rfl rfl⟩

end Cursor

theorem Observes.asks {α : Type} {f : Cursor → Scanned α} {cursor : Cursor}
    (observes : Observes f cursor) : ∃ answers, cursor.Asks answers (f cursor).2 := by
  apply observes.keeps (P := fun after => ∃ answers, cursor.Asks answers after)
  · rintro before ⟨answers, asks⟩
    obtain ⟨more, onward⟩ := before.asks_next
    exact ⟨answers ++ more, asks.trans onward⟩
  · rintro before c position after ⟨answers, asks⟩ taken
    obtain ⟨more, onward⟩ := before.asks_next
    rw [taken] at onward
    have there := asks.trans onward
    exact ⟨answers ++ more, there.answered, there.left, there.account⟩
  · exact ⟨[], Cursor.asks_nothing rfl rfl⟩

/-! ## The lexeme that ends a run -/

namespace Lexeme

variable {settings : Settings} {start : Position} {cursor after : Cursor}

/-- What begins with a character is not the end. -/
theorem beginning_ne_ended {c : Char} :
    beginning settings c start cursor ≠ (.ok .ended, after) := by
  intro ended
  cases begins_of_beginning ended with
  | character _ scanned =>
    obtain ⟨text, made⟩ := character_atom scanned
    cases made
  | keyword _ scanned =>
    obtain ⟨name, made⟩ := keyword_atom scanned
    cases made
  | dispatch _ scanned =>
    obtain ⟨construct, made⟩ := dispatch_opening scanned
    cases made
  | readerMacro _ _ scanned =>
    obtain ⟨construct, made⟩ := readerMacro_opening scanned
    cases made
  | token _ _ scanned =>
    obtain ⟨kind, run, made⟩ := token_atom scanned
    cases made

end Lexeme

/-- The stream has ended or failed, and no character is left that was given back. -/
def ScanState.Drained (state : ScanState) : Prop :=
  state.pending = none ∧ state.exhausted = true

namespace Cursor

variable {cursor after : Cursor}

theorem next_of_drained (drained : cursor.state.Drained) : cursor.next = (.ended, cursor) := by
  simp only [next, drained.1, drained.2, if_true]

theorem drained_of_next (ended : cursor.next = (.ended, after)) : after.state.Drained := by
  rcases cursor with ⟨chars, ⟨_ | given, last, _ | _, failed⟩⟩
  · simp only [next, Bool.false_eq_true, if_false] at ended
    split at ended <;> cases ended
    exact ⟨rfl, rfl⟩
  · cases ended
    exact ⟨rfl, rfl⟩
  · cases ended
  · cases ended

end Cursor

theorem Lexeme.drained_of_skipBlank {settings : Settings} {comment : Bool}
    {cursor after : Cursor} (skipped : skipBlank settings comment cursor = (.ok none, after)) :
    after.state.Drained := by
  fun_induction skipBlank settings comment cursor with
  | case1 => cases skipped
  | case2 _ _ _ taken =>
    cases skipped
    exact Cursor.drained_of_next taken
  | case3 _ _ _ _ _ _ ih => exact ih skipped
  | case4 _ _ _ _ _ _ _ ih => exact ih skipped
  | case5 _ _ _ _ _ _ _ _ _ _ ih => exact ih skipped
  | case6 => cases skipped

theorem Lexeme.drained_of_read {settings : Settings} {cursor after : Cursor}
    (ended : read settings cursor = (.ok .ended, after)) : after.state.Drained := by
  unfold read at ended
  split at ended
  · cases ended
  · next skipped =>
    cases ended
    exact drained_of_skipBlank skipped
  · exact absurd ended beginning_ne_ended

/-- A report is no form. -/
def Node.isReport : Node → Bool
  | .error _ | .endOfInput => true
  | _ => false

namespace Reader

variable {settings : Settings} {stack : List Frame} {cursor after : Cursor} {node : Node}

/-- A run that brings no fault ends behind a lexeme, and what every lexeme keeps holds before
it. -/
theorem run_last {P : Cursor → Prop} {result : Option Node}
    (kept : ∀ {before}, P before → P (Lexeme.read settings before).2) (initially : P cursor)
    (ran : run settings stack cursor = (.ok result, after)) : ∃ stack before lexeme, P before ∧
      Lexeme.read settings before = (.ok lexeme, after) ∧
      advance settings.maxDepth stack lexeme = .done (.ok result) := by
  fun_induction run settings stack cursor with
  | case1 => cases ran
  | case2 stack cursor lexeme inside scanned outcome done =>
    cases ran
    exact ⟨stack, cursor, lexeme, initially, scanned, done⟩
  | case3 stack cursor lexeme inside scanned _ _ _ ih =>
    have onward := kept initially
    rw [scanned] at onward
    exact ih onward ran

/-- The constructs around a form make a form of it. -/
theorem isReport_of_deliver {result : Option Node} (form : node.isReport = false)
    (delivered : deliver node stack = .done (.ok result)) :
    ∃ whole, result = some whole ∧ whole.isReport = false := by
  obtain ⟨whole, same, kept⟩ := deliver_done (Q := fun node => node.isReport = false)
    (fun _ _ _ => rfl) (fun _ _ _ => rfl) form delivered
  exact ⟨whole, Except.ok.inj same, kept⟩

/-- The lexeme completes this form: it is its atom, or closes its collection. -/
inductive Completes : Lexeme → Node → Prop
  | atom (kind : AtomKind) (text : List Char) :
    Completes (.atom kind text) (.ofText .utf8 kind (String.ofList text))
  | closing {frame : Frame} {c : Char} {position : Position} {node : Node} :
    frame.close c position = .ok node → Completes (.closing c position) node

theorem Completes.isReport {lexeme : Lexeme} (completes : Completes lexeme node) :
    node.isReport = false := by
  cases completes with
  | atom kind text => rfl
  | closing closed =>
    unfold Frame.close at closed
    repeat' split at closed
    all_goals cases closed
    all_goals rfl

/-- A run that brings no fault has come to the end, or a lexeme has completed a form that nothing
surrounds any more. -/
theorem advance_done {maxDepth : Nat} {lexeme : Lexeme} {result : Option Node}
    (advanced : advance maxDepth stack lexeme = .done (.ok result)) :
    lexeme = .ended ∧ result = none ∨
      ∃ node outer, Completes lexeme node ∧ deliver node outer = .done (.ok result) := by
  cases lexeme with
  | atom kind text => exact Or.inr ⟨_, stack, .atom kind text, advanced⟩
  | opening construct start =>
    simp only [advance] at advanced
    split at advanced <;> cases advanced
  | closing c position =>
    cases stack with
    | nil => cases advanced
    | cons frame outer =>
      simp only [advance] at advanced
      split at advanced
      · next node closed => exact Or.inr ⟨node, outer, .closing closed, advanced⟩
      · cases advanced
  | ended =>
    cases stack with
    | nil =>
      cases advanced
      exact Or.inl ⟨rfl, rfl⟩
    | cons frame outer => cases advanced

/-! ## Calls that share a state -/

/-- No call asks a stream any more: an error has been handed out, or the text has ended. -/
def Finished (state : ScanState) : Prop :=
  state.failed = true ∨ state.Drained

theorem run_of_drained (settings : Settings) (drained : cursor.state.Drained) :
    run settings [] cursor = (.ok none, cursor) := by
  have skipped : Lexeme.skipBlank settings false cursor = (.ok none, cursor) := by
    rw [Lexeme.skipBlank_eq, Cursor.next_of_drained drained]
  rw [run_eq, Lexeme.read, skipped]
  rfl

/-- A call that finds the state finished hands out the end and changes nothing. -/
theorem readNode_of_finished (settings : Settings) (finished : Finished cursor.state) :
    readNode settings cursor = (.endOfInput, cursor) := by
  rcases finished with failed | drained
  · rw [readNode, if_pos failed]
  · rw [readNode, run_of_drained settings drained]
    exact ite_self _

/-- A run that brings no fault has a form to hand out, or has come to the end. -/
theorem run_ok {result : Option Node} (ran : run settings stack cursor = (.ok result, after)) :
    match result with
    | some node => node.isReport = false
    | none => after.state.Drained := by
  obtain ⟨stack, before, lexeme, -, scanned, done⟩ :=
    run_last (P := fun _ => True) (fun _ => trivial) trivial ran
  rcases advance_done done with ⟨rfl, rfl⟩ | ⟨node, outer, completes, delivered⟩
  · exact Lexeme.drained_of_read scanned
  · obtain ⟨whole, rfl, form⟩ := isReport_of_deliver completes.isReport delivered
    exact form

/-- An error or the end is handed out only with a state that is finished. -/
theorem finished_of_report (report : (readNode settings cursor).1.isReport = true) :
    Finished (readNode settings cursor).2.state := by
  unfold readNode at report ⊢
  split
  · next failed => exact Or.inl failed
  next live =>
    rw [if_neg live] at report
    split
    · next node after ran =>
      simp only [ran] at report
      exact absurd report (by simp [run_ok ran])
    · next after ran => exact Or.inr (run_ok ran)
    · exact Or.inl rfl

theorem asks_readNode (settings : Settings) (cursor : Cursor) :
    ∃ answers, cursor.Asks answers (readNode settings cursor).2 := by
  unfold readNode
  split
  · exact ⟨[], Cursor.asks_nothing rfl rfl⟩
  · obtain ⟨answers, asks⟩ := (observes_run settings [] cursor).asks
    refine ⟨answers, ?_⟩
    split <;> rename_i ran <;> rw [ran] at asks
    · exact asks
    · exact asks
    · exact ⟨asks.answered, asks.left, asks.account⟩

/-- A call for a node: by what settings, and from what stream. -/
structure Call where
  settings : Settings
  chars : CharStream

namespace Call

/-- What the call brings when it finds this state. -/
def serve (call : Call) (state : ScanState) : Node × Cursor :=
  readNode call.settings ⟨call.chars, state⟩

/-- The answers that the call gets from its stream, as often as it asks. -/
def answers (call : Call) (state : ScanState) : List Polled :=
  call.chars.polled ((call.serve state).2.chars.polls - call.chars.polls)

/-- The state when calls have been made, each with the state that the one before it leaves. -/
def stateAfter (state : ScanState) : List Call → ScanState
  | [] => state
  | call :: calls => stateAfter (call.serve state).2.state calls

/-- All the answers that such calls get. -/
def allAnswers (state : ScanState) : List Call → List Polled
  | [] => []
  | call :: calls => call.answers state ++ allAnswers (call.serve state).2.state calls

theorem asks (call : Call) (state : ScanState) :
    Cursor.Asks ⟨call.chars, state⟩ (call.answers state) (call.serve state).2 := by
  obtain ⟨answers, asks⟩ := asks_readNode call.settings ⟨call.chars, state⟩
  have same : call.answers state = answers := by
    have polls : (call.serve state).2.chars.polls = call.chars.polls + answers.length := asks.polls
    rw [Call.answers, polls, Nat.add_sub_cancel_left]
    exact asks.answered
  rw [same]
  exact asks

theorem account (state : ScanState) (calls : List Call) :
    Answers state.exhausted (allAnswers state calls) (stateAfter state calls).exhausted := by
  induction calls generalizing state with
  | nil => exact .nil
  | cons call calls ih => exact (call.asks state).account.append (ih _)

theorem stateAfter_append (state : ScanState) (before calls : List Call) :
    stateAfter state (before ++ calls) = stateAfter (stateAfter state before) calls := by
  induction before generalizing state with
  | nil => rfl
  | cons call before ih => exact ih _

/-- What is finished stays as it is. -/
theorem stateAfter_of_finished {state : ScanState} (finished : Finished state)
    (calls : List Call) : stateAfter state calls = state := by
  induction calls with
  | nil => rfl
  | cons call calls ih =>
    rw [stateAfter, serve, readNode_of_finished call.settings finished]
    exact ih

/-- Calls share a state, and each has its own settings and its own stream. When a stream has
answered with its end or a failure, neither that call nor a later one asks any stream: so it does
not matter what the streams would answer then. Behind an error or the end every call hands out the
end, and leaves its stream and the state as they are. -/
theorem never_asks_finished_stream (state : ScanState) :
    (∀ (calls : List Call) (front behind : List Polled) (answer : Polled),
      allAnswers state calls = front ++ answer :: behind → answer.isChar = false → behind = []) ∧
    (∀ (before : List Call) (call : Call),
      (call.serve (stateAfter state before)).2.chars =
        call.chars.asked (call.answers (stateAfter state before)).length) ∧
    ∀ (before between : List Call) (call later : Call),
      (call.serve (stateAfter state before)).1.isReport = true →
      later.serve (stateAfter state (before ++ call :: between)) =
        (.endOfInput, ⟨later.chars, stateAfter state (before ++ call :: between)⟩) := by
  refine ⟨?_, ?_, ?_⟩
  · intro calls front behind answer split stops
    have account := Call.account state calls
    rw [split] at account
    exact account.eq_nil_of_stop stops
  · intro before call
    exact (call.asks _).left
  · intro before between call later report
    have finished : Finished (call.serve (stateAfter state before)).2.state :=
      finished_of_report report
    rw [stateAfter_append, stateAfter, stateAfter_of_finished finished]
    exact readNode_of_finished later.settings finished

end Call

end Reader

end Edn
