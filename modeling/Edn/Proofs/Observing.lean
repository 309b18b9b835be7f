import Edn.Proofs.Reading

/-!
# Readers see a stream only through the characters that they take

`Observes f cursor` says how `f` comes to its result from `cursor`: it takes a character, may give
that one back, and goes on; a failure of the stream it hands on at once, and it never reports one
that it has not met; and apart from these answers it knows nothing of the stream. Every reader of
this library observes, from the runs of token characters up to `Reader.run`. Two things follow for
all of them at once. What taking a character and giving it back preserve, a reader preserves, unless
it meets a failure and reports it (`Observes.preserves`). And a reader that does not report a
failure does the same on every stream that begins with the same characters (`Observes.extends`).
-/

namespace Edn

open Lexeme (Scanned)

/-- The fault lies in the text, not in the stream that brings it. -/
def Fault.FromText (fault : Fault) : Prop :=
  ∀ error, fault.error ≠ .stream error

/-! ## Observing -/

/-- The function begins by taking a character, and hands a failure of the stream on. A character of
the kind `back` it gives back at once. -/
structure Takes {α : Type} (f atEnd : Cursor → Scanned α)
    (given taken : Char → Position → Cursor → Scanned α) (back : Char → Bool) : Prop where
  at_failure {cursor after : Cursor} {fault : Fault} : cursor.next = (.failed fault, after) →
    f cursor = (.error fault, after)
  at_end {cursor after : Cursor} : cursor.next = (.ended, after) → f cursor = atEnd after
  at_given {cursor after : Cursor} {c : Char} {position : Position}
    (found : cursor.next = (.char c position, after)) : back c = true →
    f cursor = given c position (after.unread c position (Cursor.free_of_next found))
  at_taken {cursor after : Cursor} {c : Char} {position : Position} :
    cursor.next = (.char c position, after) → back c = false → f cursor = taken c position after

/-- From this cursor on, the function learns about the stream only by taking characters. After a
character that it gives back it goes on with `given`. -/
inductive Observes {α : Type} : (Cursor → Scanned α) → Cursor → Prop
  | ok {f : Cursor → Scanned α} {cursor : Cursor} {x : α} :
    (∀ cursor', f cursor' = (.ok x, cursor')) → Observes f cursor
  | error {f : Cursor → Scanned α} {cursor : Cursor} {fault : Fault} :
    (∀ cursor', f cursor' = (.error fault, cursor')) → fault.FromText → Observes f cursor
  | next {f : Cursor → Scanned α} {cursor : Cursor} (atEnd : Cursor → Scanned α)
      (given taken : Char → Position → Cursor → Scanned α) (back : Char → Bool) :
    Takes f atEnd given taken back →
    (∀ after, cursor.next = (.ended, after) → Observes atEnd after) →
    (∀ c position after (found : cursor.next = (.char c position, after)), back c = true →
      Observes (given c position) (after.unread c position (Cursor.free_of_next found))) →
    (∀ c position after, cursor.next = (.char c position, after) → back c = false →
      Observes (taken c position) after) →
    Observes f cursor

namespace Observes

variable {α β : Type} {f : Cursor → Scanned α} {cursor : Cursor}

theorem of_outcome {outcome : Except Fault α} (same : ∀ cursor', f cursor' = (outcome, cursor'))
    (own : ∀ fault, outcome = .error fault → fault.FromText) : Observes f cursor := by
  cases outcome with
  | ok x => exact .ok same
  | error fault => exact .error same (own fault rfl)

/-- A function that takes a character and gives none back. -/
theorem of_taking {atEnd : Except Fault α} {taken : Char → Position → Cursor → Scanned α}
    (shape : ∀ cursor', f cursor' = match cursor'.next with
      | (.failed fault, after) => (.error fault, after)
      | (.ended, after) => (atEnd, after)
      | (.char c position, after) => taken c position after)
    (own : ∀ fault, atEnd = .error fault → fault.FromText)
    (onward : ∀ c position after, cursor.next = (.char c position, after) →
      Observes (taken c position) after) : Observes f cursor := by
  apply Observes.next (fun after => (atEnd, after)) taken taken (fun _ => false)
  · constructor
    · intro cursor' after fault found
      rw [shape, found]
    · intro cursor' after found
      rw [shape, found]
    · intro cursor' after c position found given
      cases given
    · intro cursor' after c position found _
      rw [shape, found]
  · intro after _
    exact of_outcome (fun _ => rfl) own
  · intro c position after _ given
    cases given
  · intro c position after taken _
    exact onward c position after taken

/-- What a reader goes on with when a piece has been read. -/
def andThen (scanned : Scanned α) (onward : α → Cursor → Scanned β) : Scanned β :=
  match scanned with
  | (.error fault, after) => (.error fault, after)
  | (.ok x, after) => onward x after

theorem bind {onward : α → Cursor → Scanned β} (observes : Observes f cursor)
    (behind : ∀ x after, f cursor = (.ok x, after) → Observes (onward x) after) :
    Observes (fun cursor' => andThen (f cursor') onward) cursor := by
  induction observes with
  | @ok f cursor x same =>
    have goes : (fun cursor' => andThen (f cursor') onward) = onward x := by
      funext cursor'
      rw [same]
      rfl
    rw [goes]
    exact behind x cursor (same cursor)
  | error same own =>
    refine .error (fun cursor' => ?_) own
    rw [same]
    rfl
  | @next f cursor atEnd given taken back takes _ _ _ at_end at_given at_taken =>
    apply Observes.next (fun after => andThen (atEnd after) onward)
      (fun c position after => andThen (given c position after) onward)
      (fun c position after => andThen (taken c position after) onward) back
    · constructor
      · intro cursor' after fault found
        rw [takes.at_failure found]
        rfl
      · intro cursor' after found
        rw [takes.at_end found]
      · intro cursor' after c position found stays
        rw [takes.at_given found stays]
      · intro cursor' after c position found goes
        rw [takes.at_taken found goes]
    · intro after ended
      refine at_end after ended fun x last read => behind x last ?_
      rw [takes.at_end ended]
      exact read
    · intro c position after found stays
      refine at_given c position after found stays fun x last read => behind x last ?_
      rw [takes.at_given found stays]
      exact read
    · intro c position after found goes
      refine at_taken c position after found goes fun x last read => behind x last ?_
      rw [takes.at_taken found goes]
      exact read

theorem of_bind {g : Cursor → Scanned β} (onward : α → Cursor → Scanned β)
    (shape : ∀ cursor', g cursor' = andThen (f cursor') onward) (observes : Observes f cursor)
    (behind : ∀ x after, f cursor = (.ok x, after) → Observes (onward x) after) :
    Observes g cursor := by
  obtain rfl : g = fun cursor' => andThen (f cursor') onward := funext shape
  exact observes.bind behind

theorem map (g : α → β) (observes : Observes f cursor) :
    Observes (fun cursor' => (f cursor').map g) cursor := by
  apply observes.of_bind (fun x after => (.ok (g x), after))
  · intro cursor'
    rcases f cursor' with ⟨_ | x, after⟩ <;> rfl
  · intro x after _
    exact .ok fun _ => rfl

theorem judge {g : α → Except Fault β} (own : ∀ x fault, g x = .error fault → fault.FromText)
    (observes : Observes f cursor) : Observes (fun cursor' => (f cursor').judge g) cursor := by
  apply observes.of_bind (fun x after => (g x, after))
  · intro cursor'
    rcases f cursor' with ⟨_ | x, after⟩ <;> rfl
  · intro x after _
    exact of_outcome (fun _ => rfl) (own x)

end Observes

/-! ## Every reader observes -/

namespace Lexeme

variable (settings : Settings) (start : Position)

theorem observes_skipBlank (comment : Bool) (cursor : Cursor) :
    Observes (skipBlank settings comment) cursor := by
  induction size : cursor.size using Nat.strongRecOn generalizing comment cursor with
  | ind _ ih =>
    subst size
    apply Observes.of_taking (skipBlank_eq settings comment) nofun
    intro c position after taken
    have shorter := Cursor.size_next_of_char taken
    cases comment with
    | true => exact ih after.size (by omega) (c ≠ '\n') after rfl
    | false =>
      by_cases semicolon : c = ';'
      · simp only [semicolon, Bool.false_eq_true, if_false, if_true]
        exact ih after.size (by omega) true after rfl
      · by_cases blank : settings.isBlank c = true
        · simp only [semicolon, blank, Bool.false_eq_true, if_false, if_true]
          exact ih after.size (by omega) false after rfl
        · simp only [semicolon, blank, Bool.false_eq_true, if_false]
          exact .ok fun _ => rfl

theorem observes_tokenRun (cursor : Cursor) : Observes (tokenRun settings) cursor := by
  induction size : cursor.size using Nat.strongRecOn generalizing cursor with
  | ind _ ih =>
    subst size
    apply Observes.next (fun after => (.ok [], after)) (fun _ _ after => (.ok [], after))
      (fun c _ after => (tokenRun settings after).map (c :: ·))
      (fun c => !settings.isTokenChar c)
    · constructor
      · intro cursor' after fault found
        exact tokenRun_of_failed settings found
      · intro cursor' after found
        exact tokenRun_of_ended settings found
      · intro cursor' after c position found outside
        rw [tokenRun_of_char settings found, if_neg (by simpa using outside)]
      · intro cursor' after c position found inside
        rw [tokenRun_of_char settings found, if_pos (by simpa using inside)]
    · intro after _
      exact .ok fun _ => rfl
    · intro c position after _ _
      exact .ok fun _ => rfl
    · intro c position after taken _
      have shorter := Cursor.size_next_of_char taken
      exact (ih after.size (by omega) after rfl).map _

theorem observes_hexDigits (count : Nat) (cursor : Cursor) :
    Observes (hexDigits start count) cursor := by
  induction count generalizing cursor with
  | zero => exact .ok fun _ => rfl
  | succ count ih =>
    refine Observes.of_taking (fun _ => rfl) (by rintro _ ⟨⟩; exact nofun) ?_
    intro c position after _
    cases isHexDigit c with
    | true => exact (ih after).map _
    | false => exact .error (fun _ => rfl) nofun

theorem observes_escape (cursor : Cursor) : Observes (escape start) cursor := by
  refine Observes.of_taking (fun _ => rfl) (by rintro _ ⟨⟩; exact nofun) ?_
  intro c position after _
  by_cases unicode : c = 'u'
  · simp only [unicode, if_true]
    exact (observes_hexDigits start 4 after).map _
  · simp only [unicode, if_false]
    cases Literal.isSimpleEscape c with
    | true => exact .ok fun _ => rfl
    | false => exact .error (fun _ => rfl) nofun

theorem observes_stringBody (cursor : Cursor) : Observes (stringBody start) cursor := by
  induction size : cursor.size using Nat.strongRecOn generalizing cursor with
  | ind _ ih =>
    subst size
    apply Observes.of_taking (stringBody_eq start) (by rintro _ ⟨⟩; exact nofun)
    intro c position after taken
    have shorter := Cursor.size_next_of_char taken
    by_cases quote : c = '"'
    · simp only [quote, if_true]
      exact .ok fun _ => rfl
    · by_cases backslash : c = '\\'
      · subst backslash
        apply (observes_escape start after).of_bind (fun text rest =>
          (stringBody start rest).map fun body => '\\' :: (text ++ body))
        · intro inside
          rcases escape start inside with ⟨_ | text, rest⟩ <;> rfl
        · intro text rest read
          have behind : rest.size ≤ after.size := by simpa [read] using size_escape_le start after
          exact (ih rest.size (by omega) rest rfl).map _
      · simp only [quote, backslash, if_false]
        exact (ih after.size (by omega) after rfl).map _

theorem observes_character (cursor : Cursor) : Observes (character settings start) cursor := by
  refine Observes.of_taking (fun _ => rfl) (by rintro _ ⟨⟩; exact nofun) ?_
  intro c position after _
  have own : ∀ (text : List Char) (fault : Fault), (if Literal.isCharacter text then
      Except.ok (atom .character text) else
      Except.error (⟨.invalidCharacter (String.ofList text), start⟩ : Fault)) = .error fault →
      fault.FromText := by
    intro text fault judged
    split at judged <;> cases judged
    exact nofun
  cases isBlank c with
  | true => exact .error (fun _ => rfl) nofun
  | false =>
    cases settings.isTokenChar c with
    | true => exact (observes_tokenRun settings after).judge fun run => own (c :: run)
    | false => exact .of_outcome (fun _ => rfl) (own [c])

theorem observes_keyword (cursor : Cursor) : Observes (keyword settings start) cursor := by
  apply (observes_tokenRun settings cursor).judge
  intro run fault judged
  split at judged <;> cases judged
  exact nofun

theorem observes_token (c : Char) (cursor : Cursor) :
    Observes (token settings c start) cursor := by
  apply (observes_tokenRun settings cursor).judge
  intro run fault judged
  split at judged <;> cases judged
  exact nofun

theorem observes_readerMacro (kind : WrapperKind) (cursor : Cursor) :
    Observes (readerMacro kind start) cursor := by
  by_cases unquote : kind = .unquote
  · subst unquote
    apply Observes.next (fun after => (.ok (.opening (.wrapper .unquote) start), after))
      (fun _ _ after => (.ok (.opening (.wrapper .unquote) start), after))
      (fun _ _ after => (.ok (.opening (.wrapper .unquoteSplice) start), after))
      (fun c => decide (c ≠ '@'))
    · constructor
      · intro cursor' after fault found
        exact readerMacro_of_failed start found
      · intro cursor' after found
        exact readerMacro_of_ended start found
      · intro cursor' after c position found plain
        rw [readerMacro_of_char start found, if_neg (of_decide_eq_true plain)]
      · intro cursor' after c position found splice
        rw [readerMacro_of_char start found, if_pos (by simpa using splice)]
    · intro after _
      exact .ok fun _ => rfl
    · intro c position after _ _
      exact .ok fun _ => rfl
    · intro c position after _ _
      exact .ok fun _ => rfl
  · exact .ok fun cursor' => by rw [readerMacro, if_neg unquote]

theorem observes_dispatch (cursor : Cursor) : Observes (dispatch settings start) cursor := by
  refine Observes.of_taking (fun _ => rfl) (by rintro _ ⟨⟩; exact nofun) ?_
  intro c position after _
  split
  · exact .ok fun _ => rfl
  split
  · exact .ok fun _ => rfl
  split
  · exact .ok fun _ => rfl
  split
  · exact (observes_tokenRun settings after).map _
  · exact .error (fun _ => rfl) nofun

theorem observes_beginning (c : Char) (cursor : Cursor) :
    Observes (beginning settings c start) cursor := by
  unfold beginning
  split
  · exact .ok fun _ => rfl
  split
  · exact .ok fun _ => rfl
  split
  · exact .ok fun _ => rfl
  split
  · exact .ok fun _ => rfl
  split
  · exact (observes_stringBody start cursor).map _
  split
  · exact observes_character settings start cursor
  split
  · exact observes_keyword settings start cursor
  split
  · exact observes_dispatch settings start cursor
  split
  · split
    · exact observes_readerMacro start _ cursor
    · exact .error (fun _ => rfl) nofun
  · split
    · exact observes_token settings start c cursor
    · exact .error (fun _ => rfl) nofun

theorem observes_read (cursor : Cursor) : Observes (read settings) cursor := by
  apply (observes_skipBlank settings false cursor).of_bind (fun found after =>
    match found with
    | none => (.ok .ended, after)
    | some (c, position) => beginning settings c position after)
  · intro cursor'
    unfold read
    rcases skipBlank settings false cursor' with ⟨_ | _ | _, after⟩ <;> rfl
  · intro found after _
    cases found with
    | none => exact .ok fun _ => rfl
    | some found => exact observes_beginning settings found.2 found.1 after

end Lexeme

theorem Frame.unfinished_fromText (frame : Frame) : frame.unfinished.FromText := by
  unfold Frame.unfinished
  split <;> exact nofun

theorem Frame.close_fromText {frame : Frame} {c : Char} {position : Position} {fault : Fault}
    (closed : frame.close c position = .error fault) : fault.FromText := by
  unfold Frame.close at closed
  repeat' split at closed
  all_goals cases closed
  · exact nofun
  · exact nofun
  · exact frame.unfinished_fromText

namespace Reader

theorem deliver_ne_error {stack : List Frame} {node : Node} {fault : Fault} :
    deliver node stack ≠ .done (.error fault) := by
  intro delivered
  obtain ⟨whole, failed, -⟩ := deliver_done (Q := fun _ => True) (fun _ _ => id) (fun _ _ => id)
    trivial delivered
  cases failed

theorem advance_fromText {maxDepth : Nat} {stack : List Frame} {lexeme : Lexeme} {fault : Fault}
    (advanced : advance maxDepth stack lexeme = .done (.error fault)) : fault.FromText := by
  unfold advance at advanced
  split at advanced
  · exact absurd advanced deliver_ne_error
  · split at advanced <;> cases advanced
    exact nofun
  · split at advanced
    · cases advanced
      exact nofun
    · split at advanced
      · exact absurd advanced deliver_ne_error
      · next closed =>
        cases advanced
        exact Frame.close_fromText closed
  · split at advanced <;> cases advanced
    exact Frame.unfinished_fromText _

theorem observes_run (settings : Settings) (stack : List Frame) (cursor : Cursor) :
    Observes (run settings stack) cursor := by
  induction size : cursor.size using Nat.strongRecOn generalizing stack cursor with
  | ind _ ih =>
    subst size
    apply (Lexeme.observes_read settings cursor).of_bind (fun lexeme after =>
      Reader.resume settings (Reader.advance settings.maxDepth stack lexeme) after)
    · intro cursor'
      rw [Reader.run_eq]
      rcases Lexeme.read settings cursor' with ⟨_ | _, after⟩ <;> rfl
    · intro lexeme after scanned
      cases advanced : Reader.advance settings.maxDepth stack lexeme with
      | done outcome =>
        refine .of_outcome (fun _ => rfl) fun fault made => ?_
        subst made
        exact Reader.advance_fromText advanced
      | going stack' =>
        have shorter := Lexeme.size_read_lt scanned (Reader.ne_ended_of_advance advanced)
        exact ih after.size shorter stack' after rfl

end Reader

/-! ## What follows from it -/

namespace Observes

variable {α : Type} {f : Cursor → Scanned α} {cursor : Cursor}

/-- What taking characters and giving them back preserve is preserved, and a fault lies in the
text; or a failure of the stream is met and handed on. -/
theorem preserves {P : Cursor → Prop} (observes : Observes f cursor)
    (kept_taken : ∀ {before c position after}, P before →
      before.next = (.char c position, after) → P after)
    (kept_given : ∀ {before c position after}, P before →
      ∀ found : before.next = (.char c position, after),
        P (after.unread c position (Cursor.free_of_next found)))
    (kept_ended : ∀ {before after}, P before → before.next = (.ended, after) → P after)
    (initially : P cursor) :
    (P (f cursor).2 ∧ ∀ fault, (f cursor).1 = .error fault → fault.FromText) ∨
      ∃ last fault after, P last ∧ last.next = (.failed fault, after) ∧
        f cursor = (.error fault, after) := by
  induction observes with
  | ok same =>
    rw [same]
    exact Or.inl ⟨initially, nofun⟩
  | error same own =>
    rw [same]
    refine Or.inl ⟨initially, ?_⟩
    rintro _ ⟨⟩
    exact own
  | @next f cursor atEnd given taken back takes _ _ _ at_end at_given at_taken =>
    rcases found : cursor.next with ⟨⟨c, position⟩ | _ | fault, after⟩
    · cases stays : back c with
      | true =>
        rw [takes.at_given found stays]
        exact at_given c position after found stays (kept_given initially found)
      | false =>
        rw [takes.at_taken found stays]
        exact at_taken c position after found stays (kept_taken initially found)
    · rw [takes.at_end found]
      exact at_end after found (kept_ended initially found)
    · exact Or.inr ⟨cursor, fault, after, initially, found, takes.at_failure found⟩

/-- What holds of a cursor and is kept whenever a character is taken or given back holds when a
reader is done, even if it meets a failure. -/
theorem keeps {P : Cursor → Prop} (observes : Observes f cursor)
    (taking : ∀ {before}, P before → P before.next.2)
    (giving : ∀ {before c position after}, P before →
      ∀ found : before.next = (.char c position, after),
        P (after.unread c position (Cursor.free_of_next found)))
    (initially : P cursor) : P (f cursor).2 := by
  have taking_to {before after : Cursor} {taken : Taken} (held : P before)
      (found : before.next = (taken, after)) : P after := by
    have kept := taking held
    rwa [found] at kept
  rcases observes.preserves taking_to giving taking_to initially with
    ⟨kept, -⟩ | ⟨last, fault, after, held, met, handed⟩
  · exact kept
  · rw [handed]
    exact taking_to held met

end Observes

/-! ## Streams that begin alike -/

/-- The second cursor is at the same point of a stream that goes on with more characters where the
first one's fails. -/
structure Cursor.Extends (more : List (Char × Position)) (cursor longer : Cursor) : Prop where
  state : longer.state = cursor.state
  rest : longer.chars.rest = cursor.chars.rest ++ more
  live : cursor.state.exhausted = false
  fails : cursor.chars.failure ≠ none

namespace Cursor.Extends

variable {more : List (Char × Position)} {cursor longer after : Cursor}

/-- The first of the two never comes to the end, and takes only what the second takes. -/
theorem next (extend : Extends more cursor longer) :
    (∃ fault after, cursor.next = (.failed fault, after)) ∨
      ∃ (c : Char) (position : Position) (after after' : Cursor)
        (found : cursor.next = (.char c position, after))
        (found' : longer.next = (.char c position, after')), Extends more after after' ∧
        Extends more (after.unread c position (free_of_next found))
          (after'.unread c position (free_of_next found')) := by
  obtain ⟨state, rest, live, fails⟩ := extend
  rcases cursor with ⟨⟨chars, failure, polls⟩, ⟨pending, last, exhausted, failed⟩⟩
  rcases longer with ⟨⟨chars', failure', polls'⟩, state'⟩
  simp only at state rest live fails
  subst state rest live
  cases pending with
  | some given =>
    exact Or.inr ⟨given.1, given.2, _, _, rfl, rfl, ⟨rfl, rfl, rfl, fails⟩, ⟨rfl, rfl, rfl, fails⟩⟩
  | none =>
    cases chars with
    | nil =>
      obtain ⟨error, rfl⟩ := Option.ne_none_iff_exists'.1 fails
      exact Or.inl ⟨_, _, rfl⟩
    | cons first chars =>
      exact Or.inr ⟨first.1, first.2, _, _, rfl, rfl, ⟨rfl, rfl, rfl, fails⟩,
        ⟨rfl, rfl, rfl, fails⟩⟩

end Cursor.Extends

/-- Unless a failure of the stream is reported, what is read is the same whatever comes after the
characters, and the failure is still ahead. -/
theorem Observes.extends {α : Type} {f : Cursor → Scanned α} {more : List (Char × Position)}
    {cursor longer : Cursor} (observes : Observes f cursor)
    (extend : Cursor.Extends more cursor longer) :
    (∃ (last : Cursor) (fault : Fault) (after : Cursor),
        last.next = (.failed fault, after) ∧ f cursor = (.error fault, after)) ∨
      ((f longer).1 = (f cursor).1 ∧ Cursor.Extends more (f cursor).2 (f longer).2) := by
  induction observes generalizing longer with
  | ok same =>
    rw [same, same]
    exact Or.inr ⟨rfl, extend⟩
  | error same _ =>
    rw [same, same]
    exact Or.inr ⟨rfl, extend⟩
  | @next f cursor atEnd given taken back takes _ _ _ at_end at_given at_taken =>
    rcases extend.next with ⟨fault, after, failed⟩ | ⟨c, position, after, after', found, found',
      onward, backward⟩
    · exact Or.inl ⟨cursor, fault, after, failed, takes.at_failure failed⟩
    · cases stays : back c with
      | true =>
        rw [takes.at_given found stays, takes.at_given found' stays]
        exact at_given c position after found stays backward
      | false =>
        rw [takes.at_taken found stays, takes.at_taken found' stays]
        exact at_taken c position after found stays onward

end Edn
