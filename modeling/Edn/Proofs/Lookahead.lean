import Edn.Proofs.Nodes
import Edn.Proofs.Polling

/-!
# Nothing behind a form is taken, and at most one character is looked at

Three accounts of the same calls. `Performs` lists what a reader does with its cursor, move by move.
A character can be given back only where none is waiting, for `Cursor.unread` asks for a proof of
that; and it is given back only when it has just been taken (`Observes.performs`). `Cursor.Follows`
says what has been taken from a stream and how often it has been asked. And a lexeme that completes
a form leaves the stream as it is behind its last character, unless it is a token, whose end shows
only in the character behind it (`Lexeme.read_leaves`).
-/

namespace Edn

open Grammar
open Lexeme (Scanned)

/-! ## Moves -/

/-- What a reader can do with a cursor. -/
inductive Move
  | take (taken : Taken)
  | giveBack (c : Char) (position : Position)

/-- Moves that lead from one cursor to another. -/
inductive Cursor.Moves : Cursor → List Move → Cursor → Prop
  | nil {cursor : Cursor} : Moves cursor [] cursor
  | take {cursor after last : Cursor} {taken : Taken} {moves : List Move} :
    cursor.next = (taken, after) → Moves after moves last →
    Moves cursor (.take taken :: moves) last
  | giveBack {cursor last : Cursor} {c : Char} {position : Position} {moves : List Move}
    (free : cursor.state.pending = none) : Moves (cursor.unread c position free) moves last →
    Moves cursor (.giveBack c position :: moves) last

/-- From this cursor the function makes these moves, and they are all that it does: whatever other
cursor answers them alike is led by them too, and to the same result. -/
structure Performs {α : Type} (f : Cursor → α × Cursor) (cursor : Cursor) (moves : List Move) :
    Prop where
  leads : cursor.Moves moves (f cursor).2
  alone : ∀ {other after : Cursor}, other.Moves moves after → f other = ((f cursor).1, after)

/-- Only the character that has just been taken is given back. -/
def GivesBackTaken (moves : List Move) : Prop :=
  ∀ (front behind : List Move) (c : Char) (position : Position),
    moves = front ++ .giveBack c position :: behind →
    front.getLast? = some (.take (.char c position))

namespace GivesBackTaken

variable {moves : List Move}

theorem nil : GivesBackTaken [] := by
  intro front behind c position split
  exact absurd split.symm (List.append_ne_nil_of_right_ne_nil _ (List.cons_ne_nil _ _))

theorem take (taken : Taken) (gives : GivesBackTaken moves) :
    GivesBackTaken (.take taken :: moves) := by
  intro front behind c position split
  cases front with
  | nil => cases split
  | cons first front =>
    obtain ⟨-, split⟩ := List.cons.inj split
    have last := gives front behind c position split
    rw [List.getLast?_cons, last]
    rfl

theorem giveBack (c : Char) (position : Position) (gives : GivesBackTaken moves) :
    GivesBackTaken (.take (.char c position) :: .giveBack c position :: moves) := by
  intro front behind d place split
  rcases front with _ | ⟨first, _ | ⟨second, front⟩⟩
  · cases split
  · cases split
    rfl
  · obtain ⟨-, split⟩ := List.cons.inj split
    obtain ⟨-, split⟩ := List.cons.inj split
    have last := gives front behind d place split
    rw [List.getLast?_cons, List.getLast?_cons, last]
    rfl

end GivesBackTaken

namespace Performs

variable {α : Type} {f g : Cursor → α × Cursor} {cursor after : Cursor} {moves : List Move}

theorem nothing {x : α} (same : ∀ cursor', f cursor' = (x, cursor')) : Performs f cursor [] := by
  refine ⟨by rw [same]; exact .nil, ?_⟩
  intro other after moved
  cases moved
  rw [same, same]

theorem take {taken : Taken} (found : cursor.next = (taken, after))
    (shape : ∀ {other after'}, other.next = (taken, after') → f other = g after')
    (onward : Performs g after moves) : Performs f cursor (.take taken :: moves) := by
  refine ⟨?_, ?_⟩
  · rw [shape found]
    exact .take found onward.leads
  · intro other last moved
    cases moved with
    | take found' moved => rw [shape found', shape found, onward.alone moved]

theorem giveBack {c : Char} {position : Position} (found : cursor.next = (.char c position, after))
    (shape : ∀ {other after'} (found' : other.next = (.char c position, after')),
      f other = g (after'.unread c position (Cursor.free_of_next found')))
    (onward : Performs g (after.unread c position (Cursor.free_of_next found)) moves) :
    Performs f cursor (.take (.char c position) :: .giveBack c position :: moves) := by
  refine ⟨?_, ?_⟩
  · rw [shape found]
    exact .take found (.giveBack (Cursor.free_of_next found) onward.leads)
  · intro other last moved
    cases moved with
    | take found' moved =>
      cases moved with
      | giveBack free moved => rw [shape found', shape found, onward.alone moved]

end Performs

/-- Every reader makes some moves, and gives back only what it has just taken. -/
theorem Observes.performs {α : Type} {f : Cursor → Scanned α} {cursor : Cursor}
    (observes : Observes f cursor) : ∃ moves, Performs f cursor moves ∧ GivesBackTaken moves := by
  induction observes with
  | ok same => exact ⟨[], .nothing same, .nil⟩
  | error same _ => exact ⟨[], .nothing same, .nil⟩
  | @next f cursor atEnd given taken back takes _ _ _ at_end at_given at_taken =>
    rcases found : cursor.next with ⟨⟨c, position⟩ | _ | fault, after⟩
    · cases stays : back c with
      | true =>
        obtain ⟨moves, performs, gives⟩ := at_given c position after found stays
        have shape {other after' : Cursor} (found' : other.next = (.char c position, after')) :=
          takes.at_given found' stays
        exact ⟨_, .giveBack found shape performs, gives.giveBack c position⟩
      | false =>
        obtain ⟨moves, performs, gives⟩ := at_taken c position after found stays
        exact ⟨_, .take found (takes.at_taken · stays) performs, gives.take _⟩
    · obtain ⟨moves, performs, gives⟩ := at_end after found
      exact ⟨_, .take found takes.at_end performs, gives.take _⟩
    · have stops : Performs (fun last => ((.error fault : Except Fault α), last)) after [] :=
        .nothing fun _ => rfl
      exact ⟨_, .take found takes.at_failure stops, GivesBackTaken.nil.take _⟩

namespace Cursor

variable {cursor before after : Cursor}

theorem next_of_pending {c : Char} {position : Position}
    (pending : cursor.state.pending = some (c, position)) :
    cursor.next =
      (.char c position, ⟨cursor.chars, { cursor.state with pending := none }⟩) := by
  rw [next, pending]

theorem Moves.eq_of_nil (moved : before.Moves [] after) : after = before := by
  cases moved
  rfl

theorem Moves.of_take {taken : Taken} {moves : List Move}
    (moved : before.Moves (.take taken :: moves) after) :
    ∃ middle, before.next = (taken, middle) ∧ middle.Moves moves after := by
  cases moved with
  | take found moved => exact ⟨_, found, moved⟩

/-- Whoever has just taken a character finds room to give one back. -/
theorem Moves.pending_eq_none {moves : List Move} {taken : Taken}
    (moved : before.Moves moves after) (last : moves.getLast? = some (.take taken)) :
    after.state.pending = none := by
  induction moved with
  | nil => cases last
  | @take cursor after last' taken' moves found moved ih =>
    cases moves with
    | nil =>
      cases moved
      exact free_of_next found
    | cons move moves => exact ih last
  | @giveBack cursor last' c position moves free moved ih =>
    cases moves with
    | nil => cases last
    | cons move moves => exact ih last

end Cursor

/-! ## Where a stream has been read to -/

namespace Cursor

/-- The characters still to be taken: the one that was given back, and those of the stream. -/
def ahead (cursor : Cursor) : List (Char × Position) :=
  cursor.state.pending.toList ++ cursor.chars.rest

/-- From the start of the stream to the cursor it is `front`, and the stream has been asked once for
each of these characters, for the one that was given back, and for its end. -/
structure Follows (chars : CharStream) (front : List (Char × Position)) (cursor : Cursor) :
    Prop where
  whole : chars.rest = front ++ cursor.ahead
  polls : cursor.chars.polls = chars.polls + front.length +
    cursor.state.pending.toList.length + cursor.state.exhausted.toNat
  waiting : cursor.state.pending ≠ none → cursor.state.exhausted = false

/-- Nothing was given back and the stream has not ended. -/
def Clear (cursor : Cursor) : Prop :=
  cursor.state.pending = none ∧ cursor.state.exhausted = false

variable {chars : CharStream} {front : List (Char × Position)} {cursor before after : Cursor}
  {c : Char} {position : Position}

theorem Follows.next (follows : Follows chars front cursor) :
    ∃ front, Follows chars front cursor.next.2 := by
  obtain ⟨whole, polls, waiting⟩ := follows
  rcases cursor with ⟨⟨rest, failure, count⟩, ⟨_ | given, last, exhausted, failed⟩⟩
  · cases exhausted with
    | true => exact ⟨front, whole, polls, waiting⟩
    | false =>
      rcases rest with _ | ⟨first, rest⟩
      · cases failure with
        | none => exact ⟨front, whole, congrArg (· + 1) polls, nofun⟩
        | some error => exact ⟨front, whole, congrArg (· + 1) polls, nofun⟩
      · have asked : count = chars.polls + front.length := polls
        refine ⟨front ++ [first], whole.trans (List.append_cons front first rest), ?_, nofun⟩
        change count + 1 = chars.polls + (front ++ [first]).length
        rw [List.length_append, ← Nat.add_assoc, asked]
        rfl
  · obtain rfl : exhausted = false := waiting nofun
    refine ⟨front ++ [given], whole.trans (List.append_cons front given rest), ?_, nofun⟩
    change count = chars.polls + (front ++ [given]).length
    rw [List.length_append, ← Nat.add_assoc]
    exact polls

theorem Follows.unread (follows : Follows chars front before)
    (taken : before.next = (.char c position, after)) :
    Follows chars front (after.unread c position (free_of_next taken)) := by
  obtain ⟨whole, polls, waiting⟩ := follows
  rcases before with ⟨⟨rest, failure, count⟩, ⟨_ | given, last, exhausted, failed⟩⟩
  · cases exhausted with
    | true => cases taken
    | false =>
      rcases rest with _ | ⟨first, rest⟩
      · cases failure <;> cases taken
      · cases taken
        exact ⟨whole, congrArg (· + 1) polls, fun _ => rfl⟩
  · cases taken
    exact ⟨whole, polls, fun _ => waiting nofun⟩

theorem Follows.polls_le (follows : Follows chars front cursor) :
    cursor.chars.polls ≤ chars.polls + front.length + 1 := by
  obtain ⟨-, polls, waiting⟩ := follows
  rw [polls]
  cases given : cursor.state.pending with
  | none => exact Nat.add_le_add_left (Bool.toNat_le _) _
  | some given' =>
    rw [waiting (by simp [given])]
    exact Nat.le_refl _

theorem Clear.waiting (clear : cursor.Clear) :
    cursor.state.pending ≠ none → cursor.state.exhausted = false :=
  fun _ => clear.2

theorem clear_of_next (waiting : cursor.state.pending ≠ none → cursor.state.exhausted = false)
    (taken : cursor.next = (.char c position, after)) : after.Clear := by
  rcases cursor with ⟨chars, ⟨_ | given, last, _ | _, failed⟩⟩
  · simp only [Cursor.next, Bool.false_eq_true, if_false] at taken
    split at taken <;> cases taken
    exact ⟨rfl, rfl⟩
  · cases taken
  · cases taken
    exact ⟨rfl, rfl⟩
  · exact absurd (waiting (Option.some_ne_none _)) Bool.noConfusion

end Cursor

theorem Observes.follows {α : Type} {f : Cursor → Scanned α} {cursor : Cursor}
    {chars : CharStream} {front : List (Char × Position)} (observes : Observes f cursor)
    (follows : Cursor.Follows chars front cursor) :
    ∃ front, Cursor.Follows chars front (f cursor).2 := by
  apply observes.keeps (P := fun after => ∃ front, Cursor.Follows chars front after)
  · rintro before ⟨front, follows⟩
    exact follows.next
  · rintro before c position after ⟨front, follows⟩ taken
    exact ⟨front, follows.unread taken⟩
  · exact ⟨front, follows⟩

/-! ## What lies behind a lexeme -/

namespace Lexeme

variable {settings : Settings} {start : Position} {cursor after : Cursor} {lexeme : Lexeme}
  {node : Node}

/-- The lexeme is an atom that goes on as far as there are token characters. -/
def IsToken (settings : Settings) : Lexeme → Prop
  | atom kind text => kind ≠ .string ∧ ∃ c ∈ text.head?, settings.isTokenChar c = true
  | _ => False

/-- Nothing behind the lexeme has been looked at; or it is a token, and a character that has been
given back belongs to no token. -/
def Leaves (settings : Settings) (lexeme : Lexeme) (after : Cursor) : Prop :=
  after.Clear ∨ lexeme.IsToken settings ∧
    ∀ next ∈ after.state.pending, settings.isTokenChar next.1 = false

theorem clear_of_skipBlank {comment : Bool} {found : Char × Position}
    (waiting : cursor.state.pending ≠ none → cursor.state.exhausted = false)
    (skipped : skipBlank settings comment cursor = (.ok (some found), after)) : after.Clear := by
  fun_induction skipBlank settings comment cursor with
  | case1 => cases skipped
  | case2 => cases skipped
  | case3 _ _ _ _ taken _ ih => exact ih (Cursor.clear_of_next waiting taken).waiting skipped
  | case4 _ _ _ _ _ taken _ ih => exact ih (Cursor.clear_of_next waiting taken).waiting skipped
  | case5 _ _ _ _ _ taken _ _ _ _ ih =>
    exact ih (Cursor.clear_of_next waiting taken).waiting skipped
  | case6 _ _ _ _ _ taken =>
    cases skipped
    exact Cursor.clear_of_next waiting taken

theorem tokenRun_ends {run : List Char} (scanned : tokenRun settings cursor = (.ok run, after)) :
    (∀ c ∈ run, settings.isTokenChar c = true) ∧
      ∀ next ∈ after.state.pending, settings.isTokenChar next.1 = false := by
  fun_induction tokenRun settings cursor generalizing run with
  | case1 => cases scanned
  | case2 cursor after' taken =>
    cases scanned
    have free : after.state.pending = none := Cursor.free_of_next taken
    exact ⟨List.forall_mem_nil _, by simp [free]⟩
  | case3 cursor c position after' taken _ inside ih =>
    obtain ⟨others, behind, rfl⟩ := Scanned.of_map scanned
    obtain ⟨all, ends⟩ := ih behind
    exact ⟨List.forall_mem_cons.2 ⟨inside, all⟩, ends⟩
  | case4 cursor c position after' taken _ outside =>
    cases scanned
    refine ⟨List.forall_mem_nil _, ?_⟩
    rintro _ ⟨⟩
    exact Bool.eq_false_iff.2 outside

theorem clear_of_hexDigits {count : Nat} {digits : List Char} (clear : cursor.Clear)
    (scanned : hexDigits start count cursor = (.ok digits, after)) : after.Clear := by
  induction count generalizing cursor digits with
  | zero =>
    cases scanned
    exact clear
  | succ count ih =>
    unfold hexDigits at scanned
    split at scanned
    · cases scanned
    · cases scanned
    · next taken =>
      split at scanned
      · obtain ⟨others, behind, -⟩ := Scanned.of_map scanned
        exact ih (Cursor.clear_of_next clear.waiting taken) behind
      · cases scanned

theorem clear_of_escape {written : List Char} (clear : cursor.Clear)
    (scanned : escape start cursor = (.ok written, after)) : after.Clear := by
  unfold escape at scanned
  split at scanned
  · cases scanned
  · cases scanned
  · next taken =>
    have onward := Cursor.clear_of_next clear.waiting taken
    split at scanned
    · obtain ⟨digits, behind, -⟩ := Scanned.of_map scanned
      exact clear_of_hexDigits onward behind
    · split at scanned <;> cases scanned
      exact onward

/-- Nothing behind the closing quote of a string is looked at. -/
theorem clear_of_stringBody {body : List Char} (clear : cursor.Clear)
    (scanned : stringBody start cursor = (.ok body, after)) : after.Clear := by
  fun_induction stringBody start cursor generalizing body with
  | case1 => cases scanned
  | case2 => cases scanned
  | case3 _ _ _ taken =>
    cases scanned
    exact Cursor.clear_of_next clear.waiting taken
  | case4 => cases scanned
  | case5 _ _ _ _ _ escaped _ taken _ _ ih =>
    obtain ⟨others, behind, -⟩ := Scanned.of_map scanned
    exact ih (clear_of_escape (Cursor.clear_of_next clear.waiting taken) escaped) behind
  | case6 _ _ _ _ taken _ _ _ ih =>
    obtain ⟨others, behind, -⟩ := Scanned.of_map scanned
    exact ih (Cursor.clear_of_next clear.waiting taken) behind

theorem character_leaves (clear : cursor.Clear)
    (scanned : character settings start cursor = (.ok lexeme, after)) :
    lexeme.Leaves settings after := by
  unfold character at scanned
  simp only at scanned
  split at scanned
  · cases scanned
  · cases scanned
  · next c position inside taken =>
    split at scanned
    · cases scanned
    split at scanned
    · next token =>
      obtain ⟨run, behind, named⟩ := Scanned.of_judge scanned
      split at named <;> cases named
      exact Or.inr ⟨⟨nofun, c, rfl, token⟩, (tokenRun_ends behind).2⟩
    · split at scanned <;> cases scanned
      exact Or.inl (Cursor.clear_of_next clear.waiting taken)

theorem keyword_leaves (scanned : keyword settings start cursor = (.ok lexeme, after)) :
    lexeme.Leaves settings after := by
  obtain ⟨name, behind, named⟩ := Scanned.of_judge scanned
  obtain ⟨all, ends⟩ := tokenRun_ends behind
  cases name with
  | nil => cases named
  | cons c name =>
    split at named <;> cases named
    exact Or.inr ⟨⟨nofun, c, rfl, all c List.mem_cons_self⟩, ends⟩

theorem token_leaves {c : Char} (first : settings.isTokenChar c = true)
    (scanned : token settings c start cursor = (.ok lexeme, after)) :
    lexeme.Leaves settings after := by
  obtain ⟨run, behind, named⟩ := Scanned.of_judge scanned
  split at named
  · next kind found =>
    cases named
    have no_string : kind ≠ .string := by
      rintro rfl
      cases Literal.tokenKind?_eq_some_iff.1 found
    exact Or.inr ⟨⟨no_string, c, rfl, first⟩, (tokenRun_ends behind).2⟩
  · cases named

/-- A lexeme that completes a form leaves what is behind it, unless it is a token. -/
theorem beginning_leaves {c : Char} (clear : cursor.Clear)
    (completes : Reader.Completes lexeme node)
    (scanned : beginning settings c start cursor = (.ok lexeme, after)) :
    lexeme.Leaves settings after := by
  cases begins_of_beginning scanned with
  | closing _ => exact Or.inl clear
  | collection _ _ => cases completes
  | string _ behind => exact Or.inl (clear_of_stringBody clear behind)
  | character _ scanned => exact character_leaves clear scanned
  | keyword _ scanned => exact keyword_leaves scanned
  | dispatch _ scanned =>
    obtain ⟨construct, rfl⟩ := dispatch_opening scanned
    cases completes
  | readerMacro _ _ scanned =>
    obtain ⟨construct, rfl⟩ := readerMacro_opening scanned
    cases completes
  | token first _ scanned => exact token_leaves first scanned

theorem read_leaves (waiting : cursor.state.pending ≠ none → cursor.state.exhausted = false)
    (completes : Reader.Completes lexeme node)
    (scanned : read settings cursor = (.ok lexeme, after)) : lexeme.Leaves settings after := by
  unfold read at scanned
  split at scanned
  · cases scanned
  · cases scanned
    cases completes
  · next skipped => exact beginning_leaves (clear_of_skipBlank waiting skipped) completes scanned

end Lexeme

/-- The form ends with a token: a number, a symbol, a keyword, or a character whose name begins
with a token character. -/
inductive Node.EndsInToken (settings : Settings) : Node → Prop
  | atom {kind : AtomKind} {text : List Char} : kind ≠ .string →
    (∃ c ∈ text.head?, settings.isTokenChar c = true) →
    EndsInToken settings (.ofText .utf8 kind (String.ofList text))
  | tagged {tag content : Node} : EndsInToken settings content →
    EndsInToken settings (.tagged tag content)
  | wrapped {kind : WrapperKind} {content : Node} : EndsInToken settings content →
    EndsInToken settings (.wrapped kind content)

namespace Reader

variable {settings : Settings} {stack : List Frame} {chars : CharStream} {cursor after : Cursor}
  {node whole : Node}

/-- A form ends as the one does that completes it. -/
theorem endsInToken_of_deliver (ends : node.EndsInToken settings)
    (delivered : deliver node stack = .done (.ok (some whole))) : whole.EndsInToken settings := by
  obtain ⟨_, same, kept⟩ := deliver_done (fun _ _ => .wrapped) (fun _ _ => .tagged) ends delivered
  cases same
  exact kept

/-- Behind a form nothing has been looked at, unless it ends with a token. -/
theorem run_leaves (follows : ∃ front, Cursor.Follows chars front cursor)
    (ran : run settings stack cursor = (.ok (some whole), after)) :
    after.Clear ∨ whole.EndsInToken settings ∧
      ∀ next ∈ after.state.pending, settings.isTokenChar next.1 = false := by
  obtain ⟨stack, before, lexeme, ⟨front, follows⟩, scanned, done⟩ :=
    run_last (P := fun before => ∃ front, Cursor.Follows chars front before)
      (fun ⟨front, follows⟩ => (Lexeme.observes_read settings _).follows follows) follows ran
  rcases advance_done done with ⟨-, none⟩ | ⟨node, outer, completes, delivered⟩
  · cases none
  rcases Lexeme.read_leaves follows.waiting completes scanned with clear | ⟨token, ends⟩
  · exact Or.inl clear
  · cases completes with
    | atom kind text =>
      obtain ⟨no_string, first⟩ := token
      exact Or.inr ⟨endsInToken_of_deliver (.atom no_string first) delivered, ends⟩
    | closing _ => exact token.elim

/-! ## One form after another -/

/-- If a character has been given back, then a call for a node takes it again before anything
else. -/
theorem performs_run_pending {c : Char} {position : Position} (settings : Settings)
    (pending : cursor.state.pending = some (c, position)) : ∃ later,
    Performs (run settings []) cursor (.take (.char c position) :: later) := by
  obtain ⟨moves, performs, gives⟩ := (observes_run settings [] cursor).performs
  rcases moves with _ | ⟨taken | ⟨d, place⟩, later⟩
  · -- A run that makes no move comes to the same result where nothing is left: to the end.
    have elsewhere : run settings [] ⟨cursor.chars, ⟨none, .origin, true, false⟩⟩ =
      ((run settings [] cursor).1, _) := performs.alone .nil
    rw [run_of_drained settings ⟨rfl, rfl⟩] at elsewhere
    have came : run settings [] cursor = (.ok none, cursor) :=
      Prod.ext (congrArg Prod.fst elsewhere).symm performs.leads.eq_of_nil
    have drained : cursor.state.Drained := run_ok came
    exact nomatch pending.symm.trans drained.1
  · obtain ⟨middle, found, -⟩ := performs.leads.of_take
    cases (Cursor.next_of_pending pending).symm.trans found
    exact ⟨later, performs⟩
  · exact nomatch gives [] later d place rfl

/-- Calls, each by its own settings, have handed out one form after another from this stream. -/
inductive HandsOut (chars : CharStream) : Cursor → Prop
  | start : HandsOut chars ⟨chars, .fresh⟩
  | form {settings : Settings} {before after : Cursor} {node : Node} : HandsOut chars before →
    readNode settings before = (node, after) → node.isReport = false → HandsOut chars after

/-- A call that hands out a form has run up to it. -/
theorem run_of_readNode (form : node.isReport = false)
    (read : readNode settings cursor = (node, after)) :
    run settings [] cursor = (.ok (some node), after) := by
  unfold readNode at read
  split at read
  · cases read
    cases form
  · split at read
    · next ran =>
      cases read
      exact ran
    · cases read
      cases form
    · cases read
      cases form

/-- The form that a call hands out stands before it, and the rest behind it. -/
theorem next_of_readNode {failure : Option StreamError} (form : node.isReport = false)
    (read : readNode settings cursor = (node, after))
    (here : cursor.At (cursor.ahead.map Prod.fst) failure) :
    after.At (after.ahead.map Prod.fst) failure ∧ ∃ value : Value, node = value.toNode ∧
      Next settings settings.maxDepth (cursor.ahead.map Prod.fst) value
        (after.ahead.map Prod.fst) := by
  cases first_node settings here with
  | @form value rest _ next there read' =>
    cases read.symm.trans read'
    obtain rfl : after.ahead.map Prod.fst = rest := by
      rw [← there.chars, Cursor.ahead, List.map_append]
    exact ⟨there, value, rfl, next⟩
  | ended _ _ read' =>
    cases read.symm.trans read'
    cases form
  | failed _ read' =>
    cases read.symm.trans read'
    cases form

theorem HandsOut.at (handsOut : HandsOut chars cursor) :
    cursor.At (cursor.ahead.map Prod.fst) chars.failure := by
  induction handsOut with
  | start => exact ⟨rfl, rfl, nofun, rfl⟩
  | form _ read form ih => exact (next_of_readNode form read ih).1

theorem HandsOut.follows (handsOut : HandsOut chars cursor) :
    ∃ front, Cursor.Follows chars front cursor := by
  induction handsOut with
  | start => exact ⟨[], rfl, rfl, nofun⟩
  | @form settings before after node _ read form ih =>
    obtain ⟨front, follows⟩ := ih
    have onward := (observes_run settings [] before).follows follows
    rwa [run_of_readNode form read] at onward

/-- A call that hands out a form, after any number of others, takes the stream up to the form's last
character. It asks for one character more only if the form ends with a token, whose end does not
show otherwise. If there is such a character, then it belongs to no token, it is kept with its
position, and whatever call comes next takes it first. Behind any other form nothing is asked for.
No character is lost or comes twice, and one is given back only when it has just been taken, so that
there is room for it, as every use of `Cursor.unread` has to show. -/
theorem readNode_takes_form (chars : CharStream) (settings : Settings) (before after : Cursor)
    (node : Node) (earlier : HandsOut chars before)
    (read : readNode settings before = (node, after)) (form : node.isReport = false) :
    ∃ (value : Value) (front : List (Char × Position)) (moves : List Move),
      node = value.toNode ∧
      Next settings settings.maxDepth (before.ahead.map Prod.fst) value
        (after.ahead.map Prod.fst) ∧
      chars.rest = front ++ after.ahead ∧
      after.chars.polls ≤ chars.polls + front.length + 1 ∧
      (∀ c position, after.state.pending = some (c, position) →
        node.EndsInToken settings ∧ settings.isTokenChar c = false ∧
        after.chars.polls = chars.polls + front.length + 1 ∧
        ∀ settings', ∃ later,
          Performs (run settings' []) after (.take (.char c position) :: later)) ∧
      (¬ node.EndsInToken settings → after.state.pending = none ∧
        after.chars.polls = chars.polls + front.length) ∧
      run settings [] before = (.ok (some node), after) ∧
      Performs (run settings []) before moves ∧
      ∀ made c position others middle, moves = made ++ .giveBack c position :: others →
        before.Moves made middle →
        made.getLast? = some (.take (.char c position)) ∧ middle.state.pending = none := by
  have ran := run_of_readNode form read
  have leaves := run_leaves earlier.follows ran
  obtain ⟨front, follows⟩ := (earlier.form read form).follows
  obtain ⟨moves, performs, gives⟩ := (observes_run settings [] before).performs
  obtain ⟨-, value, same, next⟩ := next_of_readNode form read earlier.at
  refine ⟨value, front, moves, same, next, follows.whole, ?_, ?_, ?_, ran, performs, ?_⟩
  · exact follows.polls_le
  · intro c position pending
    have extra : after.chars.polls = chars.polls + front.length + 1 := by
      have polls := follows.polls
      rwa [follows.waiting (by simp [pending]), pending] at polls
    rcases leaves with ⟨free, -⟩ | ⟨ends, other⟩
    · exact nomatch pending.symm.trans free
    · exact ⟨ends, other _ pending, extra, fun settings' => performs_run_pending settings' pending⟩
  · intro no_token
    obtain ⟨free, live⟩ := leaves.resolve_right fun token => no_token token.1
    have polls := follows.polls
    rw [free, live] at polls
    exact ⟨free, polls⟩
  · intro made c position others middle split moved
    have last := gives made others c position split
    exact ⟨last, moved.pending_eq_none last⟩

/-- A list comes first, and nothing behind it is asked for; then a symbol, and the space behind
it. -/
theorem readNode_takes_form_symbol :
    let chars := CharStream.ofText "(a)b c".toList
    let before := (readNode .edn ⟨chars, .fresh⟩).2
    let step := readNode .edn before
    HandsOut chars before ∧ before.chars.polls = 3 ∧ step.1.isReport = false ∧
      step.2.state.pending = some (' ', ⟨0, 4⟩) ∧ step.1.EndsInToken .edn := by
  intro chars before step
  have earlier : HandsOut chars before :=
    .form .start (show readNode .edn ⟨chars, .fresh⟩ = (_, before) from rfl) (by decide +kernel)
  have form : step.1.isReport = false := by decide +kernel
  have pending : step.2.state.pending = some (' ', ⟨0, 4⟩) := by decide +kernel
  obtain ⟨value, front, moves, -, -, -, -, extra, -⟩ :=
    readNode_takes_form chars .edn before step.2 step.1 earlier rfl form
  exact ⟨earlier, by decide +kernel, form, pending, (extra ' ' ⟨0, 4⟩ pending).1⟩

end Reader

end Edn
