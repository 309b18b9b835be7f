import Edn.Lexeme
import Edn.Proofs.Grammar
import Edn.Proofs.TokenChar

/-!
# Runs of characters and the grammar

`Cursor.At` says what a cursor has before it: a text, and perhaps a failure behind it. Positions,
the character that was given back and the memory of the end do not show in it. Every loop over a
cursor is then pinned from both sides. What it takes stands at the front of the text, whatever
follows and even if the stream fails later (`…_sound`); and where the grammar finds something at the
front of a text that does not fail, the loop takes just that (`…_complete`).
-/

namespace Edn

/-! ## What is before a cursor -/

/-- The text still to be taken, and the failure that follows it. -/
structure Cursor.At (cursor : Cursor) (text : List Char) (failure : Option StreamError) :
    Prop where
  chars : cursor.state.pending.toList.map Prod.fst ++ cursor.chars.rest.map Prod.fst = text
  failing : cursor.chars.failure = failure
  ended : cursor.state.exhausted = true → cursor.chars.rest = [] ∧ failure = none
  live : cursor.state.failed = false

namespace Cursor

variable {cursor after : Cursor} {text : List Char} {failure : Option StreamError}

theorem at_fresh (chars : CharStream) :
    At ⟨chars, .fresh⟩ (chars.rest.map Prod.fst) chars.failure :=
  ⟨rfl, rfl, nofun, rfl⟩

theorem At.length_eq (here : cursor.At text failure) : text.length = cursor.size := by
  rw [← here.chars]
  simp [size, Nat.add_comm]

/-- Taking a character brings the first of the text, its end, or the failure. -/
theorem At.next (here : cursor.At text failure) :
    match cursor.next with
    | (.char c _, after) => ∃ rest, text = c :: rest ∧ after.At rest failure ∧
        after.state.pending = none
    | (.ended, after) => text = [] ∧ failure = none ∧ after.At [] none
    | (.failed _, _) => text = [] ∧ failure ≠ none := by
  obtain ⟨chars, failing, ended, live⟩ := here
  rcases cursor with ⟨⟨rest, fault, polls⟩, ⟨pending, last, exhausted, failed⟩⟩
  simp only at chars failing ended live
  subst failing live chars
  cases pending with
  | some taken => exact ⟨rest.map Prod.fst, rfl, ⟨rfl, rfl, ended, rfl⟩, rfl⟩
  | none =>
    cases exhausted with
    | true =>
      obtain ⟨rfl, rfl⟩ := ended rfl
      exact ⟨rfl, rfl, rfl, rfl, fun _ => ⟨rfl, rfl⟩, rfl⟩
    | false =>
      rcases rest with _ | ⟨⟨c, position⟩, rest⟩
      · cases fault with
        | none => exact ⟨rfl, rfl, rfl, rfl, fun _ => ⟨rfl, rfl⟩, rfl⟩
        | some error => exact ⟨rfl, Option.some_ne_none _⟩
      · exact ⟨rest.map Prod.fst, rfl, ⟨rfl, rfl, nofun, rfl⟩, rfl⟩

theorem At.of_next_char {c : Char} {position : Position} (here : cursor.At text failure)
    (taken : cursor.next = (.char c position, after)) :
    ∃ rest, text = c :: rest ∧ after.At rest failure ∧
      (after.unread c position (free_of_next taken)).At text failure := by
  have step := here.next
  rw [taken] at step
  obtain ⟨rest, rfl, there, free⟩ := step
  refine ⟨rest, rfl, there, ?_, there.failing, there.ended, there.live⟩
  have chars := there.chars
  rw [free] at chars
  exact congrArg (c :: ·) chars

theorem At.of_next_ended (here : cursor.At text failure)
    (taken : cursor.next = (.ended, after)) : text = [] ∧ failure = none ∧ after.At [] none := by
  have step := here.next
  rwa [taken] at step

theorem At.next_cons {c : Char} {rest : List Char} (here : cursor.At (c :: rest) failure) :
    ∃ (position : Position) (after : Cursor) (taken : cursor.next = (.char c position, after)),
      after.At rest failure ∧ (after.unread c position (free_of_next taken)).At (c :: rest)
        failure := by
  have step := here.next
  split at step
  · next d position after taken =>
    obtain ⟨rest', same, there, back⟩ := here.of_next_char taken
    cases same
    exact ⟨position, after, taken, there, back⟩
  · cases step.1
  · cases step.1

theorem At.next_nil (here : cursor.At [] none) :
    ∃ after, cursor.next = (.ended, after) ∧ after.At [] none := by
  have step := here.next
  cases taken : cursor.next with
  | mk result after =>
    rw [taken] at step
    cases result with
    | ended => exact ⟨after, rfl, step.2.2⟩
    | failed fault => exact absurd rfl step.2
    | char d position =>
      obtain ⟨rest, split, -⟩ := step
      cases split

end Cursor

namespace Lexeme

open Grammar

variable {settings : Settings} {cursor after : Cursor} {text rest : List Char}
  {failure : Option StreamError} {start : Position}

theorem Scanned.of_map {α β : Type} {f : α → β} {scanned : Scanned α} {y : β}
    (mapped : scanned.map f = (.ok y, after)) : ∃ x, scanned = (.ok x, after) ∧ f x = y := by
  rcases scanned with ⟨_ | x, rest⟩
  · cases mapped
  · cases mapped
    exact ⟨x, rfl, rfl⟩

theorem Scanned.of_judge {α β : Type} {f : α → Except Fault β} {scanned : Scanned α} {y : β}
    (judged : scanned.judge f = (.ok y, after)) : ∃ x, scanned = (.ok x, after) ∧ f x = .ok y := by
  rcases scanned with ⟨_ | x, rest⟩
  · cases judged
  · obtain ⟨made, rfl⟩ := Prod.mk.inj judged
    exact ⟨x, rfl, made⟩

/-! ## White space and comments -/

theorem skipBlank_eq (settings : Settings) (comment : Bool) (cursor : Cursor) :
    skipBlank settings comment cursor =
      match cursor.next with
      | (.failed fault, after) => (.error fault, after)
      | (.ended, after) => (.ok none, after)
      | (.char c position, after) =>
        if comment then skipBlank settings (c ≠ '\n') after
        else if c = ';' then skipBlank settings true after
        else if settings.isBlank c then skipBlank settings false after
        else (.ok (some (c, position)), after) := by
  rw [skipBlank]
  split <;> simp only [*]

/-- What skipping stops at, given the text that it stops at. -/
def Stopped (failure : Option StreamError) (after : Cursor) :
    Option (Char × Position) → List Char → Prop
  | none, front => front = [] ∧ failure = none ∧ after.At [] none
  | some (c, _), front => ∃ rest, front = c :: rest ∧ after.At rest failure

theorem newline_gap (settings : Settings) (depth : Nat) (rest : List Char) :
    Gap settings depth ('\n' :: rest) rest :=
  .blank (.char (by simp [Settings.isBlank, isBlank_of_isWhitespace]))

theorem skipBlank_sound_within (depth : Nat) {comment : Bool} {found : Option (Char × Position)}
    (here : cursor.At text failure) 
    (scanned : skipBlank settings comment cursor = (.ok found, after)) :
    ∃ body tail front, text = body ++ tail ∧ (∀ c ∈ body, c ≠ '\n') ∧
      (if comment then ∀ c ∈ tail.head?, c = '\n' else body = []) ∧
      Forms settings depth tail [] front ∧ Stopped failure after found front := by
  fun_induction skipBlank settings comment cursor generalizing text with
  | case1 => cases scanned
  | case2 comment cursor after' taken =>
    cases scanned
    obtain ⟨rfl, rfl, there⟩ := here.of_next_ended taken
    exact ⟨[], [], [], rfl, nofun, by cases comment <;> simp, .nil, rfl, rfl, there⟩
  | case3 cursor c position after' taken _ ih =>
    obtain ⟨rest, rfl, there, -⟩ := here.of_next_char taken
    obtain ⟨body, tail, front, rfl, plain, ends, gaps, stopped⟩ := ih there scanned
    by_cases newline : c = '\n'
    · subst newline
      simp only [ne_eq, not_true_eq_false, decide_false, Bool.false_eq_true, if_false] at ends
      subst ends
      exact ⟨[], '\n' :: tail, front, rfl, nofun, by simp, .gap (newline_gap _ _ _) gaps, stopped⟩
    · simp only [newline, ne_eq, not_false_eq_true, decide_true, if_true] at ends
      exact ⟨c :: body, tail, front, rfl, List.forall_mem_cons.2 ⟨newline, plain⟩, ends, gaps,
        stopped⟩
  | case4 comment cursor position after' no_comment taken _ ih =>
    obtain ⟨rest, rfl, there, -⟩ := here.of_next_char taken
    obtain ⟨body, tail, front, rfl, plain, ends, gaps, stopped⟩ := ih there scanned
    refine ⟨[], ';' :: (body ++ tail), front, rfl, nofun, by simp [no_comment], ?_, stopped⟩
    exact .gap (.blank (.comment plain ends)) gaps
  | case5 comment cursor c position after' taken _ no_comment _ blank ih =>
    obtain ⟨rest, rfl, there, -⟩ := here.of_next_char taken
    obtain ⟨body, tail, front, rfl, plain, ends, gaps, stopped⟩ := ih there scanned
    obtain rfl : body = [] := ends
    exact ⟨[], c :: tail, front, rfl, nofun, by simp [no_comment],
      .gap (.blank (.char blank)) gaps, stopped⟩
  | case6 comment cursor c position after' taken _ no_comment =>
    cases scanned
    obtain ⟨rest, rfl, there, -⟩ := here.of_next_char taken
    exact ⟨[], c :: rest, c :: rest, rfl, nofun, by simp [no_comment], .nil, rest, rfl, there⟩

theorem skipBlank_sound (depth : Nat) {found : Option (Char × Position)}
    (here : cursor.At text failure)
    (scanned : skipBlank settings false cursor = (.ok found, after)) :
    ∃ front, Forms settings depth text [] front ∧ Stopped failure after found front := by
  obtain ⟨body, tail, front, rfl, -, empty, gaps, stopped⟩ :=
    skipBlank_sound_within depth here scanned
  obtain rfl : body = [] := empty
  exact ⟨front, gaps, stopped⟩

/-- A comment is over where its line is. -/
theorem skipBlank_comment (body : List Char) (here : cursor.At (body ++ rest) none)
    (plain : ∀ c ∈ body, c ≠ '\n') (ends : ∀ c ∈ rest.head?, c = '\n') :
    ∃ after, after.At rest none ∧
      skipBlank settings true cursor = skipBlank settings false after := by
  induction body generalizing cursor with
  | nil =>
    refine ⟨cursor, here, ?_⟩
    rw [skipBlank_eq settings true, skipBlank_eq settings false]
    cases rest with
    | nil =>
      obtain ⟨after, taken, -⟩ := here.next_nil
      rw [taken]
    | cons c rest =>
      obtain rfl : c = '\n' := ends c rfl
      obtain ⟨position, after, taken, -⟩ := here.next_cons
      rw [taken]
      simp [Settings.isBlank, isBlank_of_isWhitespace]
  | cons c body ih =>
    obtain ⟨other, plain⟩ := List.forall_mem_cons.1 plain
    obtain ⟨position, after, taken, there, -⟩ := here.next_cons
    obtain ⟨final, at_rest, same⟩ := ih there plain
    refine ⟨final, at_rest, ?_⟩
    rw [skipBlank_eq, taken, ← same]
    simp [other]

theorem skipBlank_blank (here : cursor.At text none) (blank : Blank settings text rest) :
    ∃ after, after.At rest none ∧
      skipBlank settings false cursor = skipBlank settings false after := by
  cases blank with
  | @char c _ blank =>
    obtain ⟨position, after, taken, there, -⟩ := here.next_cons
    have no_semicolon : c ≠ ';' := by
      intro same
      subst same
      rw [settings.isBlank_eq (by decide)] at blank
      exact absurd blank (by decide)
    refine ⟨after, there, ?_⟩
    rw [skipBlank_eq, taken]
    simp [no_semicolon, blank]
  | comment plain ends =>
    obtain ⟨position, inside, taken, there, -⟩ := here.next_cons
    obtain ⟨after, at_rest, same⟩ := skipBlank_comment _ there plain ends
    refine ⟨after, at_rest, ?_⟩
    rw [skipBlank_eq, taken, ← same]
    rfl

theorem skipBlank_nil (settings : Settings) (here : cursor.At [] none) :
    ∃ after, skipBlank settings false cursor = (.ok none, after) ∧ after.At [] none := by
  obtain ⟨after, taken, there⟩ := here.next_nil
  refine ⟨after, ?_, there⟩
  rw [skipBlank_eq, taken]

theorem skipBlank_cons {c : Char} (here : cursor.At (c :: rest) none) (other : c ≠ ';')
    (no_blank : settings.isBlank c = false) :
    ∃ position after, skipBlank settings false cursor = (.ok (some (c, position)), after) ∧
      after.At rest none := by
  obtain ⟨position, after, taken, there, -⟩ := here.next_cons
  refine ⟨position, after, ?_, there⟩
  rw [skipBlank_eq, taken]
  simp [other, no_blank]

/-! ## Runs of token characters -/

section TokenRunSteps

variable {c : Char} {position : Position} {fault : Fault}

theorem tokenRun_of_failed (settings : Settings) (taken : cursor.next = (.failed fault, after)) :
    tokenRun settings cursor = (.error fault, after) := by
  rw [tokenRun]
  split
  · next found =>
    cases found.symm.trans taken
    rfl
  · next found => cases found.symm.trans taken
  · next found => cases found.symm.trans taken

theorem tokenRun_of_ended (settings : Settings) (taken : cursor.next = (.ended, after)) :
    tokenRun settings cursor = (.ok [], after) := by
  rw [tokenRun]
  split
  · next found => cases found.symm.trans taken
  · next found =>
    cases found.symm.trans taken
    rfl
  · next found => cases found.symm.trans taken

theorem tokenRun_of_char (settings : Settings) (taken : cursor.next = (.char c position, after)) :
    tokenRun settings cursor =
      if settings.isTokenChar c then (tokenRun settings after).map (c :: ·)
      else (.ok [], after.unread c position (Cursor.free_of_next taken)) := by
  rw [tokenRun]
  split
  · next found => cases found.symm.trans taken
  · next found => cases found.symm.trans taken
  · next found =>
    cases found.symm.trans taken
    rfl

end TokenRunSteps

theorem tokenRun_sound {run : List Char} (here : cursor.At text failure)
    (scanned : tokenRun settings cursor = (.ok run, after)) :
    ∃ rest, text = run ++ rest ∧ (∀ c ∈ run, settings.isTokenChar c = true) ∧
      Ends settings rest ∧ after.At rest failure := by
  fun_induction tokenRun settings cursor generalizing text run with
  | case1 => cases scanned
  | case2 cursor after' taken =>
    cases scanned
    obtain ⟨rfl, rfl, there⟩ := here.of_next_ended taken
    exact ⟨[], rfl, nofun, nofun, there⟩
  | case3 cursor c position after' taken _ inside ih =>
    obtain ⟨rest, rfl, there, -⟩ := here.of_next_char taken
    obtain ⟨others, behind, rfl⟩ := Scanned.of_map scanned
    obtain ⟨rest, rfl, all, ends, at_rest⟩ := ih there behind
    exact ⟨rest, rfl, List.forall_mem_cons.2 ⟨inside, all⟩, ends, at_rest⟩
  | case4 cursor c position after' taken _ outside =>
    cases scanned
    obtain ⟨rest, rfl, -, back⟩ := here.of_next_char taken
    refine ⟨c :: rest, rfl, nofun, ?_, back⟩
    intro d among
    cases among
    exact Bool.eq_false_iff.2 outside

theorem tokenRun_complete (run : List Char) (here : cursor.At (run ++ rest) none)
    (inside : ∀ c ∈ run, settings.isTokenChar c = true) (ends : Ends settings rest) :
    ∃ after, tokenRun settings cursor = (.ok run, after) ∧ after.At rest none := by
  induction run generalizing cursor with
  | nil =>
    cases rest with
    | nil =>
      obtain ⟨after, taken, there⟩ := here.next_nil
      exact ⟨after, tokenRun_of_ended settings taken, there⟩
    | cons c rest =>
      obtain ⟨position, after, taken, -, back⟩ := here.next_cons
      refine ⟨after.unread c position (Cursor.free_of_next taken), ?_, back⟩
      rw [tokenRun_of_char settings taken, ends c rfl, if_neg Bool.false_ne_true]
  | cons c run ih =>
    obtain ⟨first, inside⟩ := List.forall_mem_cons.1 inside
    obtain ⟨position, after, taken, there, -⟩ := here.next_cons
    obtain ⟨final, scanned, at_rest⟩ := ih there inside
    refine ⟨final, ?_, at_rest⟩
    rw [tokenRun_of_char settings taken, if_pos first, scanned]
    rfl

/-! ## Strings -/

theorem isSimpleEscape_iff {c : Char} :
    Literal.isSimpleEscape c = true ↔ c ∈ ['t', 'r', 'n', '\\', '"', 'b', 'f'] := by
  simp [Literal.isSimpleEscape, or_assoc]

theorem hexDigits_sound {count : Nat} {digits : List Char} (here : cursor.At text failure)
    (scanned : hexDigits start count cursor = (.ok digits, after)) :
    ∃ rest, text = digits ++ rest ∧ digits.length = count ∧
      (∀ c ∈ digits, isHexDigit c = true) ∧ after.At rest failure := by
  induction count generalizing cursor text digits with
  | zero =>
    cases scanned
    exact ⟨text, rfl, rfl, nofun, here⟩
  | succ count ih =>
    unfold hexDigits at scanned
    split at scanned
    · cases scanned
    · cases scanned
    · next c position inside taken =>
      obtain ⟨rest, rfl, there, -⟩ := here.of_next_char taken
      split at scanned
      · next digit =>
        obtain ⟨others, behind, rfl⟩ := Scanned.of_map scanned
        obtain ⟨rest, rfl, rfl, hex, at_rest⟩ := ih there behind
        exact ⟨rest, rfl, rfl, List.forall_mem_cons.2 ⟨digit, hex⟩, at_rest⟩
      · cases scanned

theorem hexDigits_complete (start : Position) (digits : List Char)
    (here : cursor.At (digits ++ rest) none)
    (hex : ∀ c ∈ digits, isHexDigit c = true) :
    ∃ after, hexDigits start digits.length cursor = (.ok digits, after) ∧ after.At rest none := by
  induction digits generalizing cursor with
  | nil => exact ⟨cursor, rfl, here⟩
  | cons c digits ih =>
    obtain ⟨first, hex⟩ := List.forall_mem_cons.1 hex
    obtain ⟨position, inside, taken, there, -⟩ := here.next_cons
    obtain ⟨final, scanned, at_rest⟩ := ih there hex
    refine ⟨final, ?_, at_rest⟩
    simp only [List.length_cons, hexDigits, taken, first, if_true, scanned]
    rfl

theorem escape_sound {written : List Char} (here : cursor.At text failure)
    (scanned : escape start cursor = (.ok written, after)) :
    ∃ rest, text = written ++ rest ∧ after.At rest failure ∧
      ∀ body, Literal.StringText body → Literal.StringText ('\\' :: (written ++ body)) := by
  unfold escape at scanned
  split at scanned
  · cases scanned
  · cases scanned
  · next c position inside taken =>
    obtain ⟨rest, rfl, there, -⟩ := here.of_next_char taken
    split at scanned
    · next unicode =>
      obtain ⟨digits, behind, rfl⟩ := Scanned.of_map scanned
      obtain ⟨rest, rfl, four, hex, at_rest⟩ := hexDigits_sound there behind
      refine ⟨rest, rfl, at_rest, ?_⟩
      intro body valid
      rw [unicode]
      exact .unicode four hex valid
    · split at scanned
      · next simple =>
        cases scanned
        exact ⟨rest, rfl, there, fun body valid => .escape (isSimpleEscape_iff.1 simple) valid⟩
      · cases scanned

theorem stringBody_eq (start : Position) (cursor : Cursor) :
    stringBody start cursor =
      match cursor.next with
      | (.failed fault, after) => (.error fault, after)
      | (.ended, after) => (.error ⟨.unterminatedString, start⟩, after)
      | (.char c _, after) =>
        if c = '"' then (.ok [], after)
        else if c = '\\' then
          match escape start after with
          | (.error fault, after) => (.error fault, after)
          | (.ok text, rest) => (stringBody start rest).map fun body => c :: (text ++ body)
        else (stringBody start after).map (c :: ·) := by
  rw [stringBody]
  split <;> simp only [*]
  repeat' split
  all_goals simp_all

theorem stringBody_sound {body : List Char} (here : cursor.At text failure)
    (scanned : stringBody start cursor = (.ok body, after)) :
    ∃ rest, text = body ++ '"' :: rest ∧ Literal.StringText body ∧ after.At rest failure := by
  fun_induction stringBody start cursor generalizing text body with
  | case1 => cases scanned
  | case2 => cases scanned
  | case3 cursor position after' taken =>
    cases scanned
    obtain ⟨rest, rfl, there, -⟩ := here.of_next_char taken
    exact ⟨rest, rfl, .nil, there⟩
  | case4 => cases scanned
  | case5 cursor position after' written between escaped _ taken _ _ ih =>
    obtain ⟨rest, rfl, there, -⟩ := here.of_next_char taken
    obtain ⟨others, behind, rfl⟩ := Scanned.of_map scanned
    obtain ⟨rest, rfl, at_between, valid⟩ := escape_sound there escaped
    obtain ⟨rest, rfl, inside, at_rest⟩ := ih at_between behind
    exact ⟨rest, by simp, valid others inside, at_rest⟩
  | case6 cursor c position after' taken _ no_quote no_backslash ih =>
    obtain ⟨rest, rfl, there, -⟩ := here.of_next_char taken
    obtain ⟨others, behind, rfl⟩ := Scanned.of_map scanned
    obtain ⟨rest, rfl, inside, at_rest⟩ := ih there behind
    exact ⟨rest, rfl, .plain no_quote no_backslash inside, at_rest⟩

theorem stringBody_complete (start : Position) {body : List Char}
    (here : cursor.At (body ++ '"' :: rest) none)
    (valid : Literal.StringText body) :
    ∃ after, stringBody start cursor = (.ok body, after) ∧ after.At rest none := by
  induction valid generalizing cursor with
  | nil =>
    obtain ⟨position, after, taken, there, -⟩ := here.next_cons
    exact ⟨after, by simp [stringBody_eq, taken], there⟩
  | @plain c body no_quote no_backslash _ ih =>
    obtain ⟨position, inside, taken, there, -⟩ := here.next_cons
    obtain ⟨after, scanned, at_rest⟩ := ih there
    refine ⟨after, ?_, at_rest⟩
    simp only [stringBody_eq _ cursor, taken, no_quote, no_backslash, if_false, scanned]
    rfl
  | @escape c body simple _ ih =>
    obtain ⟨position, inside, taken, there, -⟩ := here.next_cons
    obtain ⟨position', between, taken', there', -⟩ := there.next_cons
    obtain ⟨after, scanned, at_rest⟩ := ih there'
    have no_unicode : c ≠ 'u' := by
      intro same
      subst same
      exact absurd simple (by decide)
    have escaped : Lexeme.escape start inside = (.ok [c], between) := by
      simp [Lexeme.escape, taken', no_unicode, isSimpleEscape_iff.2 simple]
    refine ⟨after, ?_, at_rest⟩
    simp only [stringBody_eq _ cursor, taken, escaped, scanned]
    rfl
  | @unicode digits body four hex _ ih =>
    obtain ⟨position, inside, taken, there, -⟩ := here.next_cons
    obtain ⟨position', between, taken', there', -⟩ := there.next_cons
    have at_digits : between.At (digits ++ (body ++ '"' :: rest)) none := by
      rw [← List.append_assoc]
      exact there'
    obtain ⟨behind, read, at_body⟩ := hexDigits_complete start digits at_digits hex
    obtain ⟨after, scanned, at_rest⟩ := ih at_body
    have escaped : Lexeme.escape start inside = (.ok ('u' :: digits), behind) := by
      rw [four] at read
      simp only [Lexeme.escape, taken', if_true, read]
      rfl
    refine ⟨after, ?_, at_rest⟩
    simp only [stringBody_eq _ cursor, taken, escaped, scanned]
    rfl

end Lexeme

end Edn
