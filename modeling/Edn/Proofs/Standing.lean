import Edn.Proofs.Document
import Edn.Proofs.Observing

/-!
# Where a cursor stands in a text

`Cursor.At` forgets positions. `Cursor.Stands` adds them: what lies behind the cursor, so that every
character before it carries the place that the characters in front of it lead to, and the last place
that the stream gave is that of its last character. Whatever observes leaves the cursor standing
further on in the same text, or has met the failure behind it and reports it at the text's last
character (`Observes.stands`). So a lexeme has the place of the character that it begins with.
-/

namespace Edn

/-- The cursor stands between `front` and `text`, and `failure` comes behind that. -/
structure Cursor.Stands (cursor : Cursor) (front text : List Char) (failure : Option StreamError) :
    Prop where
  here : cursor.At text failure
  numbered : cursor.state.pending.toList ++ cursor.chars.rest =
    (Position.behind front).number text
  last : cursor.state.lastPosition =
    .behind (front ++ cursor.state.pending.toList.map Prod.fst).dropLast

namespace Cursor

variable {cursor after : Cursor} {front text : List Char} {failure : Option StreamError}

theorem At.unique {text' : List Char} {failure' : Option StreamError}
    (here : cursor.At text failure) (there : cursor.At text' failure') : text' = text :=
  there.chars.symm.trans here.chars

/-- A cursor over a stream from its start. -/
theorem stands_fresh {chars : CharStream} (numbered : chars.rest = Position.origin.number text) :
    Cursor.Stands ⟨chars, .fresh⟩ [] text chars.failure := by
  have plain : chars.rest.map Prod.fst = text := by rw [numbered, Position.map_fst_number]
  exact ⟨⟨plain, rfl, nofun, rfl⟩, numbered, rfl⟩

theorem Stands.of_next_char {c : Char} {position : Position}
    (stands : cursor.Stands front text failure) (taken : cursor.next = (.char c position, after)) :
    ∃ rest, text = c :: rest ∧ position = .behind front ∧
      after.Stands (front ++ [c]) rest failure ∧
      (after.unread c position (free_of_next taken)).Stands front text failure := by
  obtain ⟨here, numbered, last⟩ := stands
  obtain ⟨rest, rfl, there, back⟩ := here.of_next_char taken
  rcases cursor with ⟨⟨chars, fault, polls⟩, ⟨_ | ⟨given, place⟩, before, exhausted, failed⟩⟩
  · cases exhausted with
    | true => cases taken
    | false =>
      rcases chars with _ | ⟨⟨first, place⟩, chars⟩
      · cases fault <;> cases taken
      · cases taken
        obtain ⟨same, rfl⟩ := List.cons.inj numbered
        obtain rfl := (Prod.mk.inj same).2
        refine ⟨rest, rfl, rfl, ⟨there, ?_, ?_⟩, ⟨back, rfl, ?_⟩⟩
        · rw [Position.behind_concat]
          rfl
        · simp
        · simp [unread]
  · cases taken
    obtain ⟨same, behind⟩ := List.cons.inj numbered
    obtain rfl := (Prod.mk.inj same).2
    refine ⟨rest, rfl, rfl, ⟨there, ?_, ?_⟩, ⟨back, ?_, last⟩⟩
    · rw [Position.behind_concat]
      exact behind
    · simpa using last
    · exact numbered

theorem Stands.of_next_ended (stands : cursor.Stands front text failure)
    (taken : cursor.next = (.ended, after)) :
    text = [] ∧ failure = none ∧ after.Stands front [] none := by
  obtain ⟨here, numbered, last⟩ := stands
  obtain ⟨rfl, rfl, there⟩ := here.of_next_ended taken
  refine ⟨rfl, rfl, there, ?_, ?_⟩
  · rcases cursor with ⟨⟨chars, fault, polls⟩, ⟨_ | ⟨given, place⟩, before, exhausted, failed⟩⟩
    · obtain rfl : chars = [] := numbered
      cases exhausted <;> cases fault <;> cases taken <;> rfl
    · cases taken
  · rcases cursor with ⟨⟨chars, fault, polls⟩, ⟨_ | ⟨given, place⟩, before, exhausted, failed⟩⟩
    · obtain rfl : chars = [] := numbered
      cases exhausted <;> cases fault <;> cases taken <;> exact last
    · cases taken

/-- A failure is met behind the last character, and is reported at that character. -/
theorem Stands.of_next_failed {fault : Fault} (stands : cursor.Stands front text failure)
    (taken : cursor.next = (.failed fault, after)) :
    text = [] ∧ ∃ error, failure = some error ∧
      fault = ⟨.stream error, .behind front.dropLast⟩ := by
  obtain ⟨here, numbered, last⟩ := stands
  have step := here.next
  rw [taken] at step
  obtain ⟨rfl, -⟩ := step
  have failing := here.failing
  rcases cursor with ⟨⟨chars, met, polls⟩, ⟨_ | ⟨given, place⟩, before, exhausted, failed⟩⟩
  · obtain rfl : chars = [] := numbered
    obtain rfl : before = .behind front.dropLast := by simpa using last
    cases exhausted with
    | true => cases taken
    | false =>
      cases met with
      | none => cases taken
      | some error =>
        cases taken
        exact ⟨rfl, error, failing.symm, rfl⟩
  · cases taken

end Cursor

/-! ## Reading on -/

section

variable {α : Type} {f : Cursor → Lexeme.Scanned α} {cursor after : Cursor}
  {front text : List Char} {failure : Option StreamError}

/-- A reader stays in the text, or reports the failure behind it at the text's last character. -/
theorem Observes.stands (observes : Observes f cursor) (stands : cursor.Stands front text failure) :
    (∃ front' text', (f cursor).2.Stands front' text' failure ∧ front' ++ text' = front ++ text ∧
      ∀ fault, (f cursor).1 = .error fault → fault.FromText) ∨
      ∃ error after, failure = some error ∧
        f cursor = (.error ⟨.stream error, .behind (front ++ text).dropLast⟩, after) := by
  have kept := observes.preserves (P := fun cursor => ∃ front' text',
      cursor.Stands front' text' failure ∧ front' ++ text' = front ++ text)
    (fun ⟨front', text', stands, same⟩ taken => by
      obtain ⟨rest, rfl, -, onward, -⟩ := stands.of_next_char taken
      exact ⟨_, _, onward, by rw [← same, List.append_assoc, List.singleton_append]⟩)
    (fun ⟨front', text', stands, same⟩ taken => by
      obtain ⟨rest, -, -, -, back⟩ := stands.of_next_char taken
      exact ⟨_, _, back, same⟩)
    (fun ⟨front', text', stands, same⟩ taken => by
      obtain ⟨rfl, rfl, there⟩ := stands.of_next_ended taken
      exact ⟨_, _, there, same⟩)
    ⟨front, text, stands, rfl⟩
  rcases kept with ⟨⟨front', text', there, same⟩, own⟩ |
    ⟨last, fault, after, ⟨front', text', there, same⟩, met, handed⟩
  · exact Or.inl ⟨front', text', there, same, own⟩
  · obtain ⟨rfl, error, failing, rfl⟩ := there.of_next_failed met
    rw [List.append_nil] at same
    rw [same] at handed
    exact Or.inr ⟨error, after, failing, handed⟩

/-- What has been read stands behind the cursor. -/
theorem Observes.stands_of_ok {x : α} {rest : List Char} (observes : Observes f cursor)
    (stands : cursor.Stands front text failure) (read : f cursor = (.ok x, after))
    (there : after.At rest failure) :
    ∃ front', front' ++ rest = front ++ text ∧ after.Stands front' rest failure := by
  rcases observes.stands stands with ⟨front', text', onward, same, -⟩ | ⟨error, last, -, failed⟩
  · rw [read] at onward
    obtain rfl := there.unique onward.here
    exact ⟨front', same, onward⟩
  · rw [read] at failed
    cases failed

end

/-! ## The place of a lexeme -/

namespace Lexeme

open Grammar

variable {settings : Settings} {cursor after : Cursor} {front text rest : List Char}
  {failure : Option StreamError} {start : Position}

/-- The place that a lexeme names. -/
def position? : Lexeme → Option Position
  | opening _ start => some start
  | closing _ position => some position
  | _ => none

/-- White space and comments are passed, and the character behind them has its own place. -/
theorem skipBlank_located {comment : Bool} {c : Char} {position : Position}
    (stands : cursor.Stands front text failure)
    (skipped : skipBlank settings comment cursor = (.ok (some (c, position)), after)) :
    ∃ gap rest, text = gap ++ c :: rest ∧ position = .behind (front ++ gap) ∧
      after.Stands (front ++ gap ++ [c]) rest failure := by
  fun_induction skipBlank settings comment cursor generalizing front text with
  | case1 => cases skipped
  | case2 => cases skipped
  | case3 cursor d place inside taken _ ih =>
    obtain ⟨rest, rfl, -, there, -⟩ := stands.of_next_char taken
    obtain ⟨gap, rest, rfl, same, last⟩ := ih there skipped
    exact ⟨d :: gap, rest, rfl, by simpa using same, by simpa using last⟩
  | case4 comment cursor place inside _ taken _ ih =>
    obtain ⟨rest, rfl, -, there, -⟩ := stands.of_next_char taken
    obtain ⟨gap, rest, rfl, same, last⟩ := ih there skipped
    exact ⟨';' :: gap, rest, rfl, by simpa using same, by simpa using last⟩
  | case5 comment cursor d place inside taken _ _ _ _ ih =>
    obtain ⟨rest, rfl, -, there, -⟩ := stands.of_next_char taken
    obtain ⟨gap, rest, rfl, same, last⟩ := ih there skipped
    exact ⟨d :: gap, rest, rfl, by simpa using same, by simpa using last⟩
  | case6 comment cursor d place inside taken =>
    obtain ⟨rest, rfl, same, there, -⟩ := stands.of_next_char taken
    cases skipped
    exact ⟨[], rest, rfl, by simpa using same, by simpa using there⟩

/-- A lexeme names the place where it begins. -/
theorem beginning_position {c : Char} {lexeme : Lexeme}
    (scanned : beginning settings c start cursor = (.ok lexeme, after)) :
    ∀ position ∈ lexeme.position?, position = start := by
  cases begins_of_beginning scanned with
  | closing _ => simp [position?]
  | collection _ _ => simp [position?]
  | string _ _ => exact nofun
  | character _ scanned =>
    obtain ⟨text, rfl⟩ := character_atom scanned
    exact nofun
  | keyword _ scanned =>
    obtain ⟨name, rfl⟩ := keyword_atom scanned
    exact nofun
  | dispatch _ scanned =>
    obtain ⟨construct, rfl⟩ := dispatch_opening scanned
    simp [position?]
  | readerMacro _ _ scanned =>
    obtain ⟨construct, rfl⟩ := readerMacro_opening scanned
    simp [position?]
  | token _ _ scanned =>
    obtain ⟨kind, run, rfl⟩ := token_atom scanned
    exact nofun

/-- Gaps and then a lexeme stand before a cursor that reads this lexeme, and the lexeme has the
place of what stands behind the gaps. -/
theorem read_located (depth : Nat) {lexeme : Lexeme} (stands : cursor.Stands front text failure)
    (scanned : read settings cursor = (.ok lexeme, after)) :
    ∃ gap lead front' rest, text = gap ++ lead ∧ Forms settings depth text [] lead ∧
      Stands settings lead lexeme rest ∧ front' ++ rest = front ++ text ∧
      after.Stands front' rest failure ∧ (lexeme = .ended → failure = none) ∧
      ∀ position ∈ lexeme.position?, position = .behind (front ++ gap) := by
  unfold read at scanned
  split at scanned
  · cases scanned
  · next skipped =>
    cases scanned
    obtain ⟨lead, gaps, rfl, rfl, there⟩ := skipBlank_sound depth stands.here skipped
    obtain ⟨front', same, onward⟩ :=
      (observes_skipBlank settings false cursor).stands_of_ok stands skipped there
    exact ⟨text, [], front', [], by simp, gaps, ⟨rfl, rfl⟩, same, onward, fun _ => rfl, nofun⟩
  · next c position inside skipped =>
    obtain ⟨lead, gaps, behind, rfl, there⟩ := skipBlank_sound depth stands.here skipped
    obtain ⟨gap, behind', rfl, rfl, standing⟩ := skipBlank_located stands skipped
    obtain rfl := there.unique standing.here
    obtain ⟨rest, piece, at_rest⟩ := beginning_sound there scanned
    obtain ⟨front', same, onward⟩ :=
      (observes_beginning settings _ c inside).stands_of_ok standing scanned at_rest
    refine ⟨gap, c :: behind', front', rest, rfl, gaps, piece, by simpa using same, onward, ?_,
      beginning_position scanned⟩
    intro ended
    subst ended
    cases piece.1

end Lexeme

end Edn
