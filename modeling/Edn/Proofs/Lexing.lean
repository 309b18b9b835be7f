import Edn.Proofs.Scanning

/-!
# Lexemes and the grammar

A lexeme that is read is an atom of the grammar, opens a construct of the grammar, or closes one,
and gaps that are no discards stand before it (`read_sound`). Conversely `read` passes over such
gaps and finds what the grammar has behind them.
-/

namespace Edn.Lexeme

open Grammar

variable {settings : Settings} {cursor after : Cursor} {text rest : List Char}
  {failure : Option StreamError} {start : Position}

/-- The lexeme stands at the front of the text. -/
def Stands (settings : Settings) (text : List Char) (lexeme : Lexeme) (rest : List Char) : Prop :=
  match lexeme with
  | .atom kind body => Atom settings text kind body rest
  | .opening construct _ => Opens settings text construct rest
  | .closing c _ => text = c :: rest ∧ c ∈ [')', ']', '}']
  | .ended => text = [] ∧ rest = []

/-! ## The kinds of lexemes -/

section

variable {lexeme : Lexeme}

theorem character_atom (scanned : character settings start cursor = (.ok lexeme, after)) :
    ∃ text, lexeme = .atom .character text := by
  unfold character at scanned
  simp only at scanned
  split at scanned
  · cases scanned
  · cases scanned
  · split at scanned
    · cases scanned
    split at scanned
    · obtain ⟨run, -, named⟩ := Scanned.of_judge scanned
      split at named <;> cases named
      exact ⟨_, rfl⟩
    · split at scanned <;> cases scanned
      exact ⟨_, rfl⟩

theorem keyword_atom (scanned : keyword settings start cursor = (.ok lexeme, after)) :
    ∃ name, lexeme = .atom .keyword name := by
  obtain ⟨name, -, named⟩ := Scanned.of_judge scanned
  split at named <;> cases named
  exact ⟨name, rfl⟩

theorem token_atom {c : Char} (scanned : token settings c start cursor = (.ok lexeme, after)) :
    ∃ kind run, lexeme = .atom kind (c :: run) := by
  obtain ⟨run, -, named⟩ := Scanned.of_judge scanned
  split at named <;> cases named
  exact ⟨_, run, rfl⟩

theorem readerMacro_opening {kind : WrapperKind}
    (scanned : readerMacro kind start cursor = (.ok lexeme, after)) :
    ∃ construct, lexeme = .opening construct start := by
  unfold readerMacro at scanned
  repeat' split at scanned
  all_goals cases scanned
  all_goals exact ⟨_, rfl⟩

theorem dispatch_opening (scanned : dispatch settings start cursor = (.ok lexeme, after)) :
    ∃ construct, lexeme = .opening construct start := by
  unfold dispatch at scanned
  split at scanned
  · cases scanned
  · cases scanned
  · repeat' split at scanned
    · cases scanned
      exact ⟨_, rfl⟩
    · cases scanned
      exact ⟨_, rfl⟩
    · cases scanned
      exact ⟨_, rfl⟩
    · obtain ⟨run, -, rfl⟩ := Scanned.of_map scanned
      exact ⟨_, rfl⟩
    · cases scanned

end

/-! ## Characters and tokens -/

theorem Atom.of_token {kind : AtomKind} {body : List Char} (bare : kind.opening = [])
    (open_ended : kind.closing = []) (legal : AtomText settings kind body)
    (ends : Ends settings rest) : Atom settings (body ++ rest) kind body rest :=
  ⟨by rw [bare, open_ended]; rfl, legal, fun _ _ => ends⟩

theorem character_sound {lexeme : Lexeme} (here : cursor.At text failure)
    (scanned : character settings start cursor = (.ok lexeme, after)) :
    ∃ rest, Stands settings ('\\' :: text) lexeme rest ∧ after.At rest failure := by
  unfold character at scanned
  simp only at scanned
  split at scanned
  · cases scanned
  · cases scanned
  · next c position inside taken =>
    obtain ⟨rest, rfl, there, -⟩ := here.of_next_char taken
    split at scanned
    · cases scanned
    · next no_blank =>
      split at scanned
      · next token =>
        obtain ⟨run, behind, named⟩ := Scanned.of_judge scanned
        obtain ⟨rest, rfl, all, ends, at_rest⟩ := tokenRun_sound there behind
        split at named
        · next valid =>
          cases named
          have no_blanks : ∀ d ∈ c :: run, isBlank d = false :=
            List.forall_mem_cons.2 ⟨isBlank_of_isTokenChar token,
              fun d among => isBlank_of_isTokenChar (all d among)⟩
          exact ⟨rest, ⟨rfl, .character (Literal.isCharacter_iff.1 valid) no_blanks,
            fun _ _ => ends⟩, at_rest⟩
        · cases named
      · next no_token =>
        cases scanned
        refine ⟨rest, ⟨rfl, .character (.single c) ?_, ?_⟩, there⟩
        · intro d among
          rw [List.mem_singleton.1 among]
          exact Bool.eq_false_iff.2 no_blank
        · intro _ first
          rcases first with ⟨d, ⟨⟩, token⟩
          exact absurd token no_token

theorem keyword_sound {lexeme : Lexeme} (here : cursor.At text failure)
    (scanned : keyword settings start cursor = (.ok lexeme, after)) :
    ∃ rest, Stands settings (':' :: text) lexeme rest ∧ after.At rest failure := by
  obtain ⟨name, behind, named⟩ := Scanned.of_judge scanned
  obtain ⟨rest, rfl, all, ends, at_rest⟩ := tokenRun_sound here behind
  split at named
  · cases named
  · next valid =>
    cases named
    cases name with
    | nil => exact absurd rfl valid
    | cons c name =>
      have no_colon : c ≠ ':' := by simpa using valid
      exact ⟨rest, ⟨rfl, .keyword all no_colon, fun _ _ => ends⟩, at_rest⟩

theorem token_sound {c : Char} {lexeme : Lexeme} (here : cursor.At text failure)
    (first : settings.isTokenChar c = true) (plain : c ∉ signs)
    (scanned : token settings c start cursor = (.ok lexeme, after)) :
    ∃ rest, Stands settings (c :: text) lexeme rest ∧ after.At rest failure := by
  obtain ⟨run, behind, named⟩ := Scanned.of_judge scanned
  obtain ⟨rest, rfl, all, ends, at_rest⟩ := tokenRun_sound here behind
  split at named
  · next kind found =>
    cases named
    refine ⟨rest, ?_, at_rest⟩
    cases Literal.tokenKind?_eq_some_iff.1 found with
    | integer valid => exact Atom.of_token rfl rfl (.integer valid) ends
    | float valid => exact Atom.of_token rfl rfl (.float valid) ends
    | symbol valid =>
      have inside : ∀ d ∈ c :: run, settings.isTokenChar d = true :=
        List.forall_mem_cons.2 ⟨first, all⟩
      exact Atom.of_token rfl rfl (.symbol inside plain valid) ends
  · cases named

/-! ## Openings -/

theorem macroKind?_eq_some_iff {c : Char} {kind : WrapperKind} :
    macroKind? c = some kind ↔ kind.sigil.toList = [c] := by
  unfold macroKind?
  constructor
  · intro found
    repeat' split at found
    all_goals cases found
    all_goals subst_vars
    all_goals rfl
  · intro sigil
    cases kind <;> cases sigil <;> rfl

theorem readerMacro_of_failed {fault : Fault} (start : Position)
    (taken : cursor.next = (.failed fault, after)) :
    readerMacro .unquote start cursor = (.error fault, after) := by
  rw [readerMacro, if_pos rfl]
  split
  · next found =>
    cases found.symm.trans taken
    rfl
  · next found => cases found.symm.trans taken
  · next found => cases found.symm.trans taken

theorem readerMacro_of_ended (start : Position) (taken : cursor.next = (.ended, after)) :
    readerMacro .unquote start cursor = (.ok (.opening (.wrapper .unquote) start), after) := by
  rw [readerMacro, if_pos rfl]
  split
  · next found => cases found.symm.trans taken
  · next found =>
    cases found.symm.trans taken
    rfl
  · next found => cases found.symm.trans taken

theorem readerMacro_of_char {c : Char} {position : Position} (start : Position)
    (taken : cursor.next = (.char c position, after)) :
    readerMacro .unquote start cursor =
      if c = '@' then (.ok (.opening (.wrapper .unquoteSplice) start), after)
      else
        (.ok (.opening (.wrapper .unquote) start),
          after.unread c position (Cursor.free_of_next taken)) := by
  rw [readerMacro, if_pos rfl]
  split
  · next found => cases found.symm.trans taken
  · next found => cases found.symm.trans taken
  · next found =>
    cases found.symm.trans taken
    rfl

theorem readerMacro_sound {c : Char} {kind : WrapperKind} {lexeme : Lexeme}
    (here : cursor.At text failure) (enabled : settings.readerMacros = true)
    (found : macroKind? c = some kind)
    (scanned : readerMacro kind start cursor = (.ok lexeme, after)) :
    ∃ rest, Stands settings (c :: text) lexeme rest ∧ after.At rest failure := by
  have sigil := macroKind?_eq_some_iff.1 found
  by_cases unquote : kind = .unquote
  · subst unquote
    obtain rfl : '~' = c := (List.cons.inj sigil).1
    rcases taken : cursor.next with ⟨result, inside⟩
    cases result with
    | failed fault =>
      rw [readerMacro_of_failed start taken] at scanned
      cases scanned
    | ended =>
      rw [readerMacro_of_ended start taken] at scanned
      cases scanned
      obtain ⟨rfl, rfl, there⟩ := here.of_next_ended taken
      exact ⟨[], .wrapper .unquote enabled (fun _ => nofun), there⟩
    | char d position =>
      rw [readerMacro_of_char start taken] at scanned
      obtain ⟨rest, rfl, there, back⟩ := here.of_next_char taken
      by_cases splice : d = '@'
      · subst splice
        rw [if_pos rfl] at scanned
        cases scanned
        exact ⟨rest, .wrapper .unquoteSplice enabled nofun, there⟩
      · rw [if_neg splice] at scanned
        cases scanned
        exact ⟨d :: rest, .wrapper .unquote enabled (fun _ same => splice (Option.some.inj same)),
          back⟩
  · rw [readerMacro, if_neg unquote] at scanned
    cases scanned
    refine ⟨text, ?_, here⟩
    have opens : Opens settings (kind.sigil.toList ++ text) (.wrapper kind) text :=
      .wrapper kind enabled fun same => absurd same unquote
    rwa [sigil] at opens

theorem dispatch_sound {lexeme : Lexeme} (here : cursor.At text failure)
    (scanned : dispatch settings start cursor = (.ok lexeme, after)) :
    ∃ rest, Stands settings ('#' :: text) lexeme rest ∧ after.At rest failure := by
  unfold dispatch at scanned
  split at scanned
  · cases scanned
  · cases scanned
  · next c position inside taken =>
    obtain ⟨rest, rfl, there, -⟩ := here.of_next_char taken
    split at scanned
    · next brace =>
      cases scanned
      subst brace
      exact ⟨rest, .collection (.sequence .set) rest, there⟩
    · split at scanned
      · next underscore =>
        cases scanned
        obtain ⟨rfl, enabled⟩ := underscore
        exact ⟨rest, .discard enabled, there⟩
      · split at scanned
        · next quote =>
          cases scanned
          obtain ⟨rfl, enabled⟩ := quote
          exact ⟨rest, .wrapper .varQuote enabled nofun, there⟩
        · split at scanned
          · next letter =>
            obtain ⟨alphabetic, enabled⟩ := letter
            obtain ⟨run, behind, rfl⟩ := Scanned.of_map scanned
            obtain ⟨rest, rfl, all, ends, at_rest⟩ := tokenRun_sound there behind
            have inside : ∀ d ∈ c :: run, settings.isTokenChar d = true :=
              List.forall_mem_cons.2 ⟨settings.isTokenChar_of_isAlphabetic alphabetic, all⟩
            exact ⟨rest, .tag enabled alphabetic inside ends, at_rest⟩
          · cases scanned

/-! ## Whatever comes first -/

theorem macroKind?_eq_none {c : Char} (none_found : macroKind? c = none) (no_colon : c ≠ ':')
    (no_hash : c ≠ '#') : c ∉ signs := by
  intro listed
  simp only [signs, List.mem_cons, List.not_mem_nil, or_false, no_colon, no_hash, false_or]
    at listed
  rcases listed with rfl | rfl | rfl | rfl | rfl <;> cases none_found

/-- The ways in which a lexeme can begin, each with what reads the rest of it. -/
inductive Begins (settings : Settings) (c : Char) (start : Position) (cursor : Cursor) :
    Lexeme → Cursor → Prop
  | closing : c ∈ [')', ']', '}'] → Begins settings c start cursor (.closing c start) cursor
  | collection (bracket : Bracket) : bracket.opening.toList = [c] →
    Begins settings c start cursor (.opening (.collection bracket) start) cursor
  | string {body : List Char} {after : Cursor} : c = '"' →
    stringBody start cursor = (.ok body, after) →
    Begins settings c start cursor (.atom .string body) after
  | character {lexeme : Lexeme} {after : Cursor} : c = '\\' →
    character settings start cursor = (.ok lexeme, after) →
    Begins settings c start cursor lexeme after
  | keyword {lexeme : Lexeme} {after : Cursor} : c = ':' →
    keyword settings start cursor = (.ok lexeme, after) →
    Begins settings c start cursor lexeme after
  | dispatch {lexeme : Lexeme} {after : Cursor} : c = '#' →
    dispatch settings start cursor = (.ok lexeme, after) →
    Begins settings c start cursor lexeme after
  | readerMacro {kind : WrapperKind} {lexeme : Lexeme} {after : Cursor} :
    settings.readerMacros = true → macroKind? c = some kind →
    readerMacro kind start cursor = (.ok lexeme, after) →
    Begins settings c start cursor lexeme after
  | token {lexeme : Lexeme} {after : Cursor} : settings.isTokenChar c = true → c ∉ signs →
    token settings c start cursor = (.ok lexeme, after) →
    Begins settings c start cursor lexeme after

theorem begins_of_beginning {c : Char} {lexeme : Lexeme}
    (scanned : beginning settings c start cursor = (.ok lexeme, after)) :
    Begins settings c start cursor lexeme after := by
  unfold beginning at scanned
  split at scanned
  case isTrue closer =>
    cases scanned
    exact .closing (by simpa using closer)
  split at scanned
  case isTrue paren =>
    cases scanned
    subst paren
    exact .collection (.sequence .list) rfl
  split at scanned
  case isTrue square =>
    cases scanned
    subst square
    exact .collection (.sequence .vector) rfl
  split at scanned
  case isTrue brace =>
    cases scanned
    subst brace
    exact .collection .map rfl
  split at scanned
  case isTrue quote =>
    obtain ⟨body, behind, rfl⟩ := Scanned.of_map scanned
    exact .string quote behind
  split at scanned
  case isTrue backslash => exact .character backslash scanned
  split at scanned
  case isTrue colon => exact .keyword colon scanned
  rename_i no_colon
  split at scanned
  case isTrue hash => exact .dispatch hash scanned
  rename_i no_hash
  split at scanned
  · next kind found =>
    split at scanned
    · next enabled => exact .readerMacro enabled found scanned
    · cases scanned
  · next none_found =>
    split at scanned
    · next first => exact .token first (macroKind?_eq_none none_found no_colon no_hash) scanned
    · cases scanned

theorem beginning_sound {c : Char} {lexeme : Lexeme} (here : cursor.At text failure)
    (scanned : beginning settings c start cursor = (.ok lexeme, after)) :
    ∃ rest, Stands settings (c :: text) lexeme rest ∧ after.At rest failure := by
  cases begins_of_beginning scanned with
  | closing closer => exact ⟨text, ⟨rfl, closer⟩, here⟩
  | collection bracket opening =>
    have opens : Opens settings (bracket.opening.toList ++ text) (.collection bracket) text :=
      .collection bracket text
    rw [opening] at opens
    exact ⟨text, opens, here⟩
  | string quote behind =>
    subst quote
    obtain ⟨rest, rfl, valid, at_rest⟩ := stringBody_sound here behind
    exact ⟨rest, ⟨rfl, .string valid, fun unquoted => absurd rfl unquoted⟩, at_rest⟩
  | character backslash scanned =>
    subst backslash
    exact character_sound here scanned
  | keyword colon scanned =>
    subst colon
    exact keyword_sound here scanned
  | dispatch hash scanned =>
    subst hash
    exact dispatch_sound here scanned
  | readerMacro enabled found scanned => exact readerMacro_sound here enabled found scanned
  | token first plain scanned => exact token_sound here first plain scanned

/-- Gaps and then a lexeme stand before a cursor that reads this lexeme. -/
theorem read_sound (depth : Nat) {lexeme : Lexeme} (here : cursor.At text failure)
    (scanned : read settings cursor = (.ok lexeme, after)) :
    ∃ front rest, Forms settings depth text [] front ∧ Stands settings front lexeme rest ∧
      after.At rest failure ∧ (lexeme = .ended → failure = none) := by
  unfold read at scanned
  split at scanned
  · cases scanned
  · next skipped =>
    cases scanned
    obtain ⟨front, gaps, rfl, rfl, there⟩ := skipBlank_sound depth here skipped
    exact ⟨[], [], gaps, ⟨rfl, rfl⟩, there, fun _ => rfl⟩
  · next c position inside skipped =>
    obtain ⟨front, gaps, rest, rfl, there⟩ := skipBlank_sound depth here skipped
    obtain ⟨rest, stands, at_rest⟩ := beginning_sound there scanned
    refine ⟨c :: _, rest, gaps, stands, at_rest, ?_⟩
    intro same
    subst same
    cases stands.1

/-! ## Reading what the grammar has -/

theorem read_blank (here : cursor.At text none) (blank : Blank settings text rest) :
    ∃ after, after.At rest none ∧ read settings cursor = read settings after := by
  obtain ⟨after, there, same⟩ := skipBlank_blank here blank
  refine ⟨after, there, ?_⟩
  unfold read
  rw [same]

theorem read_nil (settings : Settings) (here : cursor.At [] none) :
    ∃ after, read settings cursor = (.ok .ended, after) ∧ after.At [] none := by
  obtain ⟨after, skipped, there⟩ := skipBlank_nil settings here
  refine ⟨after, ?_, there⟩
  unfold read
  rw [skipped]

theorem read_cons {c : Char} (here : cursor.At (c :: rest) none) (no_comment : c ≠ ';')
    (no_blank : settings.isBlank c = false) :
    ∃ position inside, read settings cursor = beginning settings c position inside ∧
      inside.At rest none := by
  obtain ⟨position, inside, skipped, there⟩ := skipBlank_cons here no_comment no_blank
  refine ⟨position, inside, ?_, there⟩
  unfold read
  rw [skipped]

/-- The characters that are neither white space nor part of a token, and those that say what kind
of lexeme follows them. -/
def leads : List Char :=
  ['(', '[', '{', ')', ']', '}', '"', '\\', ':', '#', '\'', '\x60', '~', '@', '^']

theorem read_lead (settings : Settings) {c : Char} (here : cursor.At (c :: rest) none)
    (lead : c ∈ leads) :
    ∃ position inside, read settings cursor = beginning settings c position inside ∧
      inside.At rest none := by
  have apart : leads.any (fun d => d == ';' || d == ',' || isBlank d) = false := by decide
  have plain := List.any_eq_false.1 apart c lead
  simp only [Bool.or_eq_true, beq_iff_eq, not_or, Bool.not_eq_true] at plain
  obtain ⟨⟨no_comment, no_comma⟩, no_blank⟩ := plain
  exact read_cons here no_comment ((settings.isBlank_eq no_comma).trans no_blank)

theorem read_closing (settings : Settings) {c : Char} (here : cursor.At (c :: rest) none)
    (closer : c ∈ [')', ']', '}']) :
    ∃ position after, read settings cursor = (.ok (.closing c position), after) ∧
      after.At rest none := by
  have leading : [')', ']', '}'].all (leads.contains ·) = true := by decide
  have lead : c ∈ leads := List.contains_iff_mem.1 (List.all_eq_true.1 leading c closer)
  obtain ⟨position, inside, begun, there⟩ := read_lead settings here lead
  refine ⟨position, inside, ?_, there⟩
  rw [begun, beginning, if_pos (by simpa using closer)]

theorem beginning_hash : beginning settings '#' start cursor = dispatch settings start cursor := by
  simp [beginning]

theorem beginning_macro {c : Char} {kind : WrapperKind} (found : macroKind? c = some kind) :
    beginning settings c start cursor =
      if settings.readerMacros then readerMacro kind start cursor
      else (.error ⟨.unexpectedChar c, start⟩, cursor) := by
  unfold macroKind? at found
  repeat' split at found
  all_goals cases found
  all_goals subst_vars
  all_goals simp [beginning, macroKind?]

theorem readerMacro_unquote (here : cursor.At rest none) (no_splice : rest.head? ≠ some '@') :
    ∃ after, readerMacro .unquote start cursor =
      (.ok (.opening (.wrapper .unquote) start), after) ∧ after.At rest none := by
  cases rest with
  | nil =>
    obtain ⟨after, taken, there⟩ := here.next_nil
    exact ⟨after, readerMacro_of_ended start taken, there⟩
  | cons c rest =>
    have plain : c ≠ '@' := fun same => no_splice (congrArg some same)
    obtain ⟨position, after, taken, -, back⟩ := here.next_cons
    refine ⟨after.unread c position (Cursor.free_of_next taken), ?_, back⟩
    rw [readerMacro_of_char start taken, if_neg plain]

theorem readerMacro_splice (here : cursor.At ('@' :: rest) none) :
    ∃ after, readerMacro .unquote start cursor =
      (.ok (.opening (.wrapper .unquoteSplice) start), after) ∧ after.At rest none := by
  obtain ⟨position, after, taken, there, -⟩ := here.next_cons
  exact ⟨after, (readerMacro_of_char start taken).trans (if_pos rfl), there⟩

theorem read_macro {c : Char} {kind : WrapperKind} (here : cursor.At (c :: rest) none)
    (lead : c ∈ leads) (found : macroKind? c = some kind) (enabled : settings.readerMacros = true) :
    ∃ position inside, read settings cursor = readerMacro kind position inside ∧
      inside.At rest none := by
  obtain ⟨position, inside, begun, there⟩ := read_lead settings here lead
  refine ⟨position, inside, ?_, there⟩
  rw [begun, beginning_macro found, if_pos enabled]

/-- What stands behind a number sign is settled by the character there. -/
theorem read_hash (settings : Settings) {c : Char} (here : cursor.At ('#' :: c :: rest) none) :
    ∃ start position inside after, read settings cursor = dispatch settings start inside ∧
      inside.next = (.char c position, after) ∧ after.At rest none := by
  obtain ⟨start, inside, begun, there⟩ := read_lead settings here (by decide)
  obtain ⟨position, after, taken, at_rest, -⟩ := there.next_cons
  refine ⟨start, position, inside, after, ?_, taken, at_rest⟩
  rw [begun, beginning_hash]

theorem read_collection (settings : Settings) (bracket : Bracket)
    (here : cursor.At (bracket.opening.toList ++ rest) none) :
    ∃ position after,
      read settings cursor = (.ok (.opening (.collection bracket) position), after) ∧
      after.At rest none := by
  rcases bracket with (_ | _ | _) | _
  · change cursor.At ('(' :: rest) none at here
    obtain ⟨position, inside, begun, there⟩ := read_lead settings here (by decide)
    exact ⟨position, inside, by simp [begun, beginning], there⟩
  · change cursor.At ('#' :: '{' :: rest) none at here
    obtain ⟨start, _, _, after, begun, taken, there⟩ := read_hash settings here
    exact ⟨start, after, by simp [begun, dispatch, taken], there⟩
  · change cursor.At ('[' :: rest) none at here
    obtain ⟨position, inside, begun, there⟩ := read_lead settings here (by decide)
    exact ⟨position, inside, by simp [begun, beginning], there⟩
  · change cursor.At ('{' :: rest) none at here
    obtain ⟨position, inside, begun, there⟩ := read_lead settings here (by decide)
    exact ⟨position, inside, by simp [begun, beginning], there⟩

theorem read_wrapper {kind : WrapperKind} (enabled : settings.readerMacros = true)
    (no_splice : kind = .unquote → rest.head? ≠ some '@')
    (here : cursor.At (kind.sigil.toList ++ rest) none) :
    ∃ position after, read settings cursor = (.ok (.opening (.wrapper kind) position), after) ∧
      after.At rest none := by
  cases kind with
  | unquote =>
    change cursor.At ('~' :: rest) none at here
    obtain ⟨position, inside, begun, there⟩ := read_macro here (by decide) rfl enabled
    obtain ⟨after, scanned, at_rest⟩ := readerMacro_unquote there (no_splice rfl)
    exact ⟨position, after, begun.trans scanned, at_rest⟩
  | unquoteSplice =>
    change cursor.At ('~' :: '@' :: rest) none at here
    obtain ⟨position, inside, begun, there⟩ := read_macro here (by decide) rfl enabled
    obtain ⟨after, scanned, at_rest⟩ := readerMacro_splice there
    exact ⟨position, after, begun.trans scanned, at_rest⟩
  | varQuote =>
    change cursor.At ('#' :: '\'' :: rest) none at here
    obtain ⟨start, _, _, after, begun, taken, there⟩ := read_hash settings here
    exact ⟨start, after, by simp [begun, dispatch, taken, enabled], there⟩
  | _ =>
    obtain ⟨position, inside, begun, there⟩ := read_macro here (by decide) rfl enabled
    exact ⟨position, inside, begun, there⟩

/-- No letter stands behind a number sign in any other construct. -/
theorem ne_of_isAlphabetic {c : Char} (alphabetic : isAlphabetic c = true) :
    c ≠ '{' ∧ c ≠ '_' ∧ c ≠ '\'' := by
  have special : ['{', '_', '\''].any isAlphabetic = false := by decide +kernel
  have apart : c ∉ ['{', '_', '\''] := by
    intro listed
    exact List.any_eq_false.1 special c listed alphabetic
  simpa only [List.mem_cons, List.not_mem_nil, or_false, not_or] using apart

theorem read_tag {c : Char} {run : List Char} (enabled : settings.taggedLiterals = true)
    (alphabetic : isAlphabetic c = true) (inside : ∀ d ∈ run, settings.isTokenChar d = true)
    (ends : Ends settings rest) (here : cursor.At ('#' :: c :: (run ++ rest)) none) :
    ∃ position after,
      read settings cursor = (.ok (.opening (.tag (String.ofList (c :: run))) position), after) ∧
      after.At rest none := by
  obtain ⟨start, _, _, _, begun, taken, at_run⟩ := read_hash settings here
  obtain ⟨after, scanned, there⟩ := tokenRun_complete run at_run inside ends
  refine ⟨start, after, ?_, there⟩
  rw [begun]
  simp [dispatch, taken, ne_of_isAlphabetic alphabetic, alphabetic, enabled, scanned, Scanned.map,
    Except.map]

/-- Where a construct is opened, its opening is read. -/
theorem read_opens {construct : Construct} (here : cursor.At text none)
    (opens : Opens settings text construct rest) :
    ∃ position after, read settings cursor = (.ok (.opening construct position), after) ∧
      after.At rest none := by
  cases opens with
  | collection bracket => exact read_collection settings bracket here
  | wrapper kind enabled no_splice => exact read_wrapper enabled no_splice here
  | @tag c run _ enabled alphabetic inside ends =>
    obtain ⟨-, others⟩ := List.forall_mem_cons.1 inside
    exact read_tag enabled alphabetic others ends here
  | discard enabled =>
    obtain ⟨start, _, _, after, begun, taken, there⟩ := read_hash settings here
    exact ⟨start, after, by simp [begun, dispatch, taken, enabled], there⟩

theorem character_complete (start : Position) {body : List Char}
    (here : cursor.At (body ++ rest) none)
    (named : Literal.CharacterText body) (no_blank : ∀ c ∈ body, isBlank c = false)
    (maximal : (∃ c ∈ body.head?, settings.isTokenChar c = true) → Ends settings rest) :
    ∃ after, character settings start cursor = (.ok (.atom .character body), after) ∧
      after.At rest none := by
  cases body with
  | nil => exact absurd rfl named.ne_nil
  | cons c run =>
    obtain ⟨position, inside, taken, there, -⟩ := here.next_cons
    have first := no_blank c List.mem_cons_self
    have valid := Literal.isCharacter_iff.2 named
    unfold character
    simp only [taken, first, Bool.false_eq_true, if_false]
    cases token : settings.isTokenChar c with
    | true =>
      have all : ∀ d ∈ run, settings.isTokenChar d = true := by
        intro d among
        rcases named.eq_singleton_or_isTokenChar settings with ⟨e, same⟩ | all
        · cases same
          cases among
        · exact all d (List.mem_cons_of_mem c among)
      have ends := maximal ⟨c, rfl, token⟩
      obtain ⟨after, scanned, at_rest⟩ := tokenRun_complete run there all ends
      refine ⟨after, ?_, at_rest⟩
      simp [scanned, Scanned.judge, Except.bind, valid]
    | false =>
      rcases named.eq_singleton_or_isTokenChar settings with ⟨d, same⟩ | all
      · cases same
        exact ⟨inside, by simp [valid], there⟩
      · rw [all c List.mem_cons_self] at token
        cases token

theorem token_complete {c : Char} {run : List Char} {kind : AtomKind}
    (here : cursor.At (run ++ rest) none) (of_kind : Literal.TokenText kind (c :: run))
    (inside : ∀ d ∈ run, settings.isTokenChar d = true) (ends : Ends settings rest) :
    ∃ after, token settings c start cursor = (.ok (.atom kind (c :: run)), after) ∧
      after.At rest none := by
  obtain ⟨after, scanned, at_rest⟩ := tokenRun_complete run here inside ends
  refine ⟨after, ?_, at_rest⟩
  simp [token, scanned, Scanned.judge, Except.bind, Literal.tokenKind?_eq_some_iff.2 of_kind]

theorem beginning_token {c : Char} (inside : settings.isTokenChar c = true)
    (plain : c ∉ signs) :
    beginning settings c start cursor = token settings c start cursor := by
  have apart := (Settings.isBlank_of_isTokenChar inside).2
  simp only [isDelimiter, Bool.or_eq_false_iff, decide_eq_false_iff_not] at apart
  simp only [signs, List.mem_cons, List.not_mem_nil, or_false, not_or] at plain
  simp [beginning, macroKind?, apart, plain, inside]

theorem read_token {c : Char} {run : List Char} {kind : AtomKind}
    (here : cursor.At (c :: (run ++ rest)) none) (of_kind : Literal.TokenText kind (c :: run))
    (inside : ∀ d ∈ c :: run, settings.isTokenChar d = true) (plain : c ∉ signs)
    (ends : Ends settings rest) :
    ∃ after, read settings cursor = (.ok (.atom kind (c :: run)), after) ∧ after.At rest none := by
  obtain ⟨first, others⟩ := List.forall_mem_cons.1 inside
  obtain ⟨no_blank, no_delimiter⟩ := Settings.isBlank_of_isTokenChar first
  have no_comment : c ≠ ';' := by
    intro same
    subst same
    exact absurd no_delimiter (by decide)
  obtain ⟨position, behind, begun, there⟩ := read_cons here no_comment no_blank
  obtain ⟨after, scanned, at_rest⟩ := token_complete there of_kind others ends
  exact ⟨after, by rw [begun, beginning_token first plain, scanned], at_rest⟩

theorem numericStart_plain {text : List Char} (number : Literal.NumericStart text) :
    ∃ c run, text = c :: run ∧ c ∉ signs := by
  cases number with
  | @digit c run digit =>
    refine ⟨c, run, rfl, ?_⟩
    intro listed
    have apart : signs.any Char.isDigit = false := by decide
    exact List.any_eq_false.1 apart c listed digit
  | @signed sign c run either _ =>
    refine ⟨sign, c :: run, rfl, ?_⟩
    rcases either with rfl | rfl <;> decide

theorem read_number {kind : AtomKind} {body : List Char} (here : cursor.At (body ++ rest) none)
    (number : Literal.NumericStart body) (of_kind : Literal.TokenText kind body)
    (inside : ∀ c ∈ body, settings.isTokenChar c = true)
    (maximal : (∃ c ∈ body.head?, settings.isTokenChar c = true) → Ends settings rest) :
    ∃ after, read settings cursor = (.ok (.atom kind body), after) ∧ after.At rest none := by
  obtain ⟨c, run, rfl, plain⟩ := numericStart_plain number
  have ends := maximal ⟨c, rfl, inside c List.mem_cons_self⟩
  exact read_token here of_kind inside plain ends

/-- Where an atom stands, it is read. -/
theorem read_atom {kind : AtomKind} {body : List Char} (here : cursor.At text none)
    (atom : Atom settings text kind body rest) :
    ∃ after, read settings cursor = (.ok (.atom kind body), after) ∧ after.At rest none := by
  obtain ⟨rfl, legal, maximal⟩ := atom
  cases legal with
  | integer valid =>
    exact read_number here valid.numericStart (.integer valid) (valid.isTokenChar settings)
      (maximal nofun)
  | float valid =>
    exact read_number here valid.numericStart (.float valid) (valid.isTokenChar settings)
      (maximal nofun)
  | @symbol c run inside plain valid =>
    have ends := maximal nofun ⟨c, rfl, inside c List.mem_cons_self⟩
    exact read_token here (.symbol valid) inside plain ends
  | @keyword c name inside no_colon =>
    change cursor.At (':' :: ((c :: name) ++ rest)) none at here
    obtain ⟨position, behind, begun, there⟩ := read_lead settings here (by decide)
    have first := inside c List.mem_cons_self
    have ends := maximal nofun ⟨c, rfl, first⟩
    obtain ⟨after, scanned, at_rest⟩ := tokenRun_complete (c :: name) there inside ends
    refine ⟨after, ?_, at_rest⟩
    rw [begun]
    simp [beginning, keyword, scanned, Scanned.judge, Except.bind, no_colon]
  | string valid =>
    change cursor.At ('"' :: (body ++ '"' :: rest)) none at here
    obtain ⟨position, behind, begun, there⟩ := read_lead settings here (by decide)
    obtain ⟨after, scanned, at_rest⟩ := stringBody_complete position there valid
    refine ⟨after, ?_, at_rest⟩
    rw [begun]
    simp [beginning, scanned, Scanned.map, Except.map]
  | character valid no_blank =>
    change cursor.At ('\\' :: (body ++ rest)) none at here
    obtain ⟨position, behind, begun, there⟩ := read_lead settings here (by decide)
    obtain ⟨after, scanned, at_rest⟩ :=
      character_complete position there valid no_blank (maximal nofun)
    refine ⟨after, ?_, at_rest⟩
    rw [begun]
    simp [beginning, scanned]

end Edn.Lexeme
