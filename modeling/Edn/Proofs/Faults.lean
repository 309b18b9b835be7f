import Edn.Proofs.Enclosing
import Edn.Proofs.Standing

/-!
# Faults and the text that they name

`HasFault` says for every error of the reader what has to stand in the text for it, and where. The
place of a fault is that of a character of the text (`HasFault.located`), and what stands there is
what the error names. Here the errors inside lexemes are shown to be such faults (`read_fault`);
those of the constructs around them follow in `Edn.Proofs.Diagnosis`.
-/

namespace Edn

open Grammar Literal

/-- The characters that close collections. -/
def closers : List Char := [')', ']', '}']

/-- What the message about a missing form calls the construct that lacks it, if it takes just one
form. -/
def Construct.lacking? : Construct → Option String
  | .collection _ => none
  | .wrapper kind => some kind.sigil
  | .tag _ => some "#tag"
  | .discard => some "#_"

/-- The body of a string, which begins behind `front`, has a backslash that escapes nothing. -/
inductive BadEscape (front body : List Char) : Fault → Prop
  | letter {inner rest : List Char} {c : Char} :
    body = inner ++ '\\' :: c :: rest → StringText inner →
    c ∉ ['t', 'r', 'n', '\\', '"', 'b', 'f', 'u'] →
    BadEscape front body ⟨.invalidEscape c, .behind (front ++ (inner ++ ['\\']))⟩
  | digit {inner digits rest : List Char} {c : Char} :
    body = inner ++ '\\' :: 'u' :: (digits ++ c :: rest) → StringText inner → digits.length < 4 →
    (∀ d ∈ digits, isHexDigit d = true) → isHexDigit c = false →
    BadEscape front body ⟨.notAHexDigit c, .behind (front ++ (inner ++ '\\' :: 'u' :: digits))⟩

/-- The text has this fault; `failure` is what follows the text, if that is not its end. -/
inductive HasFault (settings : Settings) (text : List Char) (failure : Option StreamError) :
    Fault → Prop
  /-- The stream fails behind the text. The place is that of the last character. -/
  | stream {error : StreamError} : failure = some error →
    HasFault settings text failure ⟨.stream error, .behind text.dropLast⟩
  /-- Behind complete forms stands a closing character. -/
  | unexpectedClosing {before rest : List Char} {c : Char} {values : List Value} :
    text = before ++ c :: rest → c ∈ closers →
    Forms settings settings.maxDepth text values (c :: rest) →
    HasFault settings text failure ⟨.unexpectedClosing c, .behind before⟩
  /-- Between an opening and a closing character that does not belong to it stand complete forms. -/
  | mismatch {before inside rest : List Char} {bracket : Bracket} {c : Char}
      {values : List Value} :
    text = before ++ (bracket.opening.toList ++ (inside ++ c :: rest)) →
    Forms settings settings.maxDepth (inside ++ c :: rest) values (c :: rest) →
    c ∈ closers → c ≠ bracket.closing →
    HasFault settings text failure
      ⟨.mismatch bracket.opening (.behind before) bracket.closing c,
        .behind (before ++ (bracket.opening.toList ++ inside))⟩
  /-- Between an opening and the end of the text stand complete forms, and nothing closes it. -/
  | prematureEnd {before inside : List Char} {bracket : Bracket} {values : List Value} :
    failure = none → text = before ++ (bracket.opening.toList ++ inside) →
    Forms settings settings.maxDepth inside values [] →
    (∀ others rest, ¬ Forms settings settings.maxDepth inside others (bracket.closing :: rest)) →
    HasFault settings text failure ⟨.prematureEnd bracket.closing, .behind before⟩
  /-- Between the braces of a map stands an odd number of forms, apart from those discarded. -/
  | unevenMap {before inside rest : List Char} {values : List Value} :
    text = before ++ '{' :: (inside ++ '}' :: rest) →
    Forms settings settings.maxDepth (inside ++ '}' :: rest) values ('}' :: rest) →
    values.length % 2 = 1 →
    HasFault settings text failure ⟨.unevenMap values.length, .behind before⟩
  /-- No quote ends what stands behind a quote. -/
  | unterminatedString {before body : List Char} :
    failure = none → text = before ++ '"' :: body →
    (∀ inner rest, StringText inner → body ≠ inner ++ '"' :: rest) →
    HasFault settings text failure ⟨.unterminatedString, .behind before⟩
  /-- A string has a bad escape. -/
  | badEscape {before body : List Char} {fault : Fault} :
    text = before ++ '"' :: body → BadEscape (before ++ ['"']) body fault →
    HasFault settings text failure fault
  /-- Behind a backslash stands white space, the end, or a token that names no character. -/
  | invalidCharacter {before run rest : List Char} :
    text = before ++ '\\' :: (run ++ rest) → ¬ CharacterText run →
    (run = [] → ∀ c ∈ rest.head?, isBlank c = true) →
    (run ≠ [] → (∀ c ∈ run, settings.isTokenChar c = true) ∧ Ends settings rest) →
    HasFault settings text failure ⟨.invalidCharacter (String.ofList run), .behind before⟩
  /-- A token begins like a number and is none. -/
  | invalidNumber {before run rest : List Char} :
    text = before ++ (run ++ rest) → NumericStart run → ¬ IntegerText run → ¬ FloatText run →
    (∀ c ∈ run, settings.isTokenChar c = true) → Ends settings rest →
    HasFault settings text failure ⟨.invalidNumber (String.ofList run), .behind before⟩
  /-- Behind a colon stands no token, or one that begins with a colon. -/
  | invalidKeyword {before run rest : List Char} :
    text = before ++ ':' :: (run ++ rest) → run = [] ∨ run.head? = some ':' →
    (∀ c ∈ run, settings.isTokenChar c = true) → Ends settings rest →
    HasFault settings text failure ⟨.invalidKeyword (String.ofList run), .behind before⟩
  /-- A construct that takes one form is followed by a closing character or the end. -/
  | missingForm {before front inside rest : List Char} {construct : Construct} {name : String} :
    text = before ++ front → Opens settings front construct inside →
    construct.lacking? = some name → Forms settings settings.maxDepth inside [] rest →
    (rest = [] ∧ failure = none ∨ ∃ c ∈ rest.head?, c ∈ closers) →
    HasFault settings text failure ⟨.missingForm name, .behind before⟩
  /-- The text ends with a number sign. -/
  | loneHash {before : List Char} : failure = none → text = before ++ ['#'] →
    HasFault settings text failure ⟨.missingForm "#", .behind before⟩
  /-- A number sign and the character behind it open nothing. -/
  | invalidDispatch {before rest : List Char} {c : Char} :
    text = before ++ '#' :: c :: rest →
    (∀ construct inside, ¬ Opens settings ('#' :: c :: rest) construct inside) →
    HasFault settings text failure ⟨.invalidDispatch c, .behind (before ++ ['#'])⟩
  /-- A reader macro stands where these are not read. -/
  | unexpectedChar {before rest : List Char} {c : Char} :
    text = before ++ c :: rest → c ∈ ['\'', '\x60', '~', '@', '^'] →
    settings.readerMacros = false →
    HasFault settings text failure ⟨.unexpectedChar c, .behind before⟩
  /-- A construct is opened where as many are open as may be. -/
  | tooDeep {before front inside : List Char} {construct : Construct} {stack : List Frame} :
    text = before ++ front → Opens settings front construct inside →
    Opened settings text stack front → stack.length = settings.maxDepth →
    HasFault settings text failure ⟨.tooDeep, .behind before⟩

/-! ## Places of faults -/

theorem Opens.ne_nil {settings : Settings} {text rest : List Char} {construct : Construct}
    (opens : Opens settings text construct rest) : text ≠ [] := by
  intro empty
  have shorter := opens.length_lt
  rw [empty] at shorter
  exact Nat.not_lt_zero _ shorter

variable {settings : Settings} {text : List Char} {failure : Option StreamError} {fault : Fault}

theorem BadEscape.located {front body : List Char} (bad : BadEscape front body fault) :
    ∃ before c rest, body = before ++ c :: rest ∧ fault.position = .behind (front ++ before) := by
  cases bad with
  | @letter inner rest c whole _ _ => exact ⟨inner ++ ['\\'], c, rest, by simp [whole], rfl⟩
  | @digit inner digits rest c whole _ _ _ _ =>
    exact ⟨inner ++ '\\' :: 'u' :: digits, c, rest, by simp [whole], rfl⟩

theorem BadEscape.behind {front body text : List Char} {skipped : List Char}
    (whole : body = skipped ++ text)
    (valid : ∀ inner, StringText inner → StringText (skipped ++ inner))
    (bad : BadEscape (front ++ skipped) text fault) : BadEscape front body fault := by
  cases bad with
  | @letter inner rest c split inside unknown =>
    have longer : body = skipped ++ inner ++ '\\' :: c :: rest := by
      rw [whole, split, List.append_assoc]
    have moved : BadEscape front body _ := .letter longer (valid inner inside) unknown
    simpa using moved
  | @digit inner digits rest c split inside few hex other =>
    have longer : body = skipped ++ inner ++ '\\' :: 'u' :: (digits ++ c :: rest) := by
      rw [whole, split, List.append_assoc]
    have moved : BadEscape front body _ := .digit longer (valid inner inside) few hex other
    simpa using moved

theorem exists_cons_of_opens {before front inside : List Char} {construct : Construct}
    (split : text = before ++ front) (opens : Opens settings front construct inside) :
    ∃ c rest, text = before ++ c :: rest := by
  obtain ⟨c, rest, rfl⟩ := List.exists_cons_of_ne_nil (Opens.ne_nil opens)
  exact ⟨c, rest, split⟩

/-- A fault of the text has the place of one of its characters. -/
theorem HasFault.located (has : HasFault settings text failure fault) (plain : fault.FromText) :
    ∃ before c rest, text = before ++ c :: rest ∧ fault.position = .behind before := by
  cases has with
  | stream _ => exact absurd rfl (plain _)
  | unexpectedClosing split _ _ => exact ⟨_, _, _, split, rfl⟩
  | @mismatch before inside rest bracket c values split _ _ _ =>
    exact ⟨before ++ (bracket.opening.toList ++ inside), c, rest, by simp [split], rfl⟩
  | @prematureEnd before inside bracket values _ split _ _ =>
    have opens : Opens settings _ _ inside := .collection bracket inside
    obtain ⟨c, rest, split⟩ := exists_cons_of_opens split opens
    exact ⟨before, c, rest, split, rfl⟩
  | unevenMap split _ _ => exact ⟨_, _, _, split, rfl⟩
  | unterminatedString _ split _ => exact ⟨_, _, _, split, rfl⟩
  | badEscape split bad =>
    obtain ⟨inner, c, rest, rfl, place⟩ := bad.located
    exact ⟨_, c, rest, by simp [split], place⟩
  | invalidCharacter split _ _ _ => exact ⟨_, _, _, split, rfl⟩
  | @invalidNumber before run rest split number _ _ _ _ =>
    cases number <;> exact ⟨before, _, _, split, rfl⟩
  | invalidKeyword split _ _ _ => exact ⟨_, _, _, split, rfl⟩
  | missingForm split opens _ _ _ =>
    obtain ⟨c, rest, split⟩ := exists_cons_of_opens split opens
    exact ⟨_, c, rest, split, rfl⟩
  | loneHash _ split => exact ⟨_, _, _, split, rfl⟩
  | @invalidDispatch before rest c split _ => exact ⟨before ++ ['#'], c, rest, by simp [split], rfl⟩
  | unexpectedChar split _ _ => exact ⟨_, _, _, split, rfl⟩
  | tooDeep split opens _ _ =>
    obtain ⟨c, rest, split⟩ := exists_cons_of_opens split opens
    exact ⟨_, c, rest, split, rfl⟩

/-! ## Faults inside lexemes -/

theorem Cursor.next_failed {cursor after : Cursor} (taken : cursor.next = (.failed fault, after)) :
    ¬ fault.FromText := by
  rcases cursor with ⟨⟨_ | ⟨first, chars⟩, met, polls⟩, ⟨_ | given, last, _ | _, failed⟩⟩
  all_goals cases met
  all_goals cases taken
  intro plain
  exact plain _ rfl

namespace Lexeme

variable {cursor after : Cursor} {front : List Char} {start : Position}

theorem skipBlank_fault {comment : Bool}
    (scanned : skipBlank settings comment cursor = (.error fault, after)) : ¬ fault.FromText := by
  fun_induction skipBlank settings comment cursor with
  | case1 comment cursor met after' taken =>
    cases scanned
    exact Cursor.next_failed taken
  | case2 => cases scanned
  | case3 cursor c position after' taken _ ih => exact ih scanned
  | case4 comment cursor position after' _ taken _ ih => exact ih scanned
  | case5 comment cursor c position after' taken _ _ _ _ ih => exact ih scanned
  | case6 => cases scanned

theorem Scanned.of_map_error {α β : Type} {f : α → β} {scanned : Scanned α}
    (mapped : scanned.map f = (.error fault, after)) : scanned = (.error fault, after) := by
  rcases scanned with ⟨_ | x, rest⟩
  · cases mapped
    rfl
  · cases mapped

theorem Scanned.of_judge_error {α β : Type} {f : α → Except Fault β} {scanned : Scanned α}
    (judged : scanned.judge f = (.error fault, after)) :
    scanned = (.error fault, after) ∨ ∃ x, scanned = (.ok x, after) ∧ f x = .error fault := by
  rcases scanned with ⟨_ | x, rest⟩
  · cases judged
    exact Or.inl rfl
  · obtain ⟨made, rfl⟩ := Prod.mk.inj judged
    exact Or.inr ⟨x, rfl, made⟩

theorem tokenRun_fault (scanned : tokenRun settings cursor = (.error fault, after)) :
    ¬ fault.FromText := by
  fun_induction tokenRun settings cursor with
  | case1 cursor met after' taken =>
    cases scanned
    exact Cursor.next_failed taken
  | case2 => cases scanned
  | case3 cursor c position after' taken _ _ ih => exact ih (Scanned.of_map_error scanned)
  | case4 => cases scanned

/-! ### Strings -/

/-- Too few hexadecimal digits are followed by another character, or by the end. -/
theorem hexDigits_fault {count : Nat} (stands : cursor.Stands front text failure)
    (scanned : hexDigits start count cursor = (.error fault, after)) (plain : fault.FromText) :
    fault = ⟨.unterminatedString, start⟩ ∧ failure = none ∨
      ∃ digits c rest, text = digits ++ c :: rest ∧ digits.length < count ∧
        (∀ d ∈ digits, isHexDigit d = true) ∧ isHexDigit c = false ∧
        fault = ⟨.notAHexDigit c, .behind (front ++ digits)⟩ := by
  induction count generalizing cursor front text with
  | zero => cases scanned
  | succ count ih =>
    unfold hexDigits at scanned
    split at scanned
    · next taken =>
      cases scanned
      exact absurd plain (Cursor.next_failed taken)
    · next taken =>
      cases scanned
      exact Or.inl ⟨rfl, (stands.of_next_ended taken).2.1⟩
    · next c position inside taken =>
      obtain ⟨rest, rfl, rfl, there, -⟩ := stands.of_next_char taken
      split at scanned
      · next digit =>
        rcases ih there (Scanned.of_map_error scanned) with ended | ⟨digits, d, rest, rfl, few, hex,
          other, same⟩
        · exact Or.inl ended
        · refine Or.inr ⟨c :: digits, d, rest, rfl, Nat.succ_lt_succ few,
            List.forall_mem_cons.2 ⟨digit, hex⟩, other, ?_⟩
          rw [same, List.append_assoc, List.singleton_append]
      · next other =>
        cases scanned
        exact Or.inr ⟨[], c, rest, rfl, Nat.succ_pos _, nofun, Bool.eq_false_iff.2 other,
          by rw [List.append_nil]⟩

theorem escape_fault (stands : cursor.Stands (front ++ ['\\']) text failure)
    (scanned : escape start cursor = (.error fault, after)) (plain : fault.FromText) :
    fault = ⟨.unterminatedString, start⟩ ∧ failure = none ∨
      BadEscape front ('\\' :: text) fault := by
  unfold escape at scanned
  split at scanned
  · next taken =>
    cases scanned
    exact absurd plain (Cursor.next_failed taken)
  · next taken =>
    cases scanned
    exact Or.inl ⟨rfl, (stands.of_next_ended taken).2.1⟩
  · next c position inside taken =>
    obtain ⟨rest, rfl, rfl, there, -⟩ := stands.of_next_char taken
    split at scanned
    · next unicode =>
      subst unicode
      rcases hexDigits_fault there (Scanned.of_map_error scanned) plain with
        ended | ⟨digits, d, rest, rfl, few, hex, other, rfl⟩
      · exact Or.inl ended
      · have whole : '\\' :: 'u' :: (digits ++ d :: rest) =
            [] ++ '\\' :: 'u' :: (digits ++ d :: rest) := rfl
        have bad : BadEscape front _ _ := .digit whole .nil few hex other
        right
        simpa using bad
    · next no_unicode =>
      split at scanned
      · cases scanned
      · next no_letter =>
        cases scanned
        have unknown : c ∉ ['t', 'r', 'n', '\\', '"', 'b', 'f', 'u'] := by
          intro listed
          rw [isSimpleEscape_iff] at no_letter
          simp only [List.mem_cons, List.not_mem_nil, or_false] at listed no_letter
          tauto
        have whole : '\\' :: c :: rest = [] ++ '\\' :: c :: rest := rfl
        have bad : BadEscape front _ _ := .letter whole .nil unknown
        exact Or.inr (by simpa using bad)

/-- What is wrong with a string is a bad escape, or the text ends. -/
theorem stringBody_fault (stands : cursor.Stands front text failure)
    (scanned : stringBody start cursor = (.error fault, after)) (plain : fault.FromText) :
    fault = ⟨.unterminatedString, start⟩ ∧ failure = none ∨ BadEscape front text fault := by
  fun_induction stringBody start cursor generalizing front text with
  | case1 cursor met after' taken =>
    cases scanned
    exact absurd plain (Cursor.next_failed taken)
  | case2 cursor after' taken =>
    cases scanned
    exact Or.inl ⟨rfl, (stands.of_next_ended taken).2.1⟩
  | case3 => cases scanned
  | case4 cursor position after' met last escaped taken _ _ =>
    cases scanned
    obtain ⟨rest, rfl, -, there, -⟩ := stands.of_next_char taken
    exact escape_fault there escaped plain
  | case5 cursor position after' written between escaped _ taken _ _ ih =>
    obtain ⟨rest, rfl, -, there, -⟩ := stands.of_next_char taken
    obtain ⟨rest, rfl, at_between, valid⟩ := escape_sound there.here escaped
    obtain ⟨front', same, onward⟩ :=
      (observes_escape start after').stands_of_ok there escaped at_between
    obtain rfl : front' = front ++ '\\' :: written := by
      have cut : front' ++ rest = front ++ '\\' :: written ++ rest := by simpa using same
      exact List.append_cancel_right cut
    rcases ih onward (Scanned.of_map_error scanned) with ended | bad
    · exact Or.inl ended
    · exact Or.inr (bad.behind (by simp) valid)
  | case6 cursor c position after' taken _ no_quote no_backslash ih =>
    obtain ⟨rest, rfl, -, there, -⟩ := stands.of_next_char taken
    rcases ih there (Scanned.of_map_error scanned) with ended | bad
    · exact Or.inl ended
    · exact Or.inr (bad.behind rfl fun inner inside => .plain no_quote no_backslash inside)

/-- A string that is not read has a bad escape or no end. -/
theorem string_fault (stands : cursor.Stands (front ++ ['"']) text failure)
    (scanned : stringBody (.behind front) cursor = (.error fault, after))
    (plain : fault.FromText) : HasFault settings (front ++ '"' :: text) failure fault := by
  rcases stringBody_fault stands scanned plain with ⟨rfl, rfl⟩ | bad
  · refine .unterminatedString rfl rfl ?_
    intro inner rest inside whole
    subst whole
    obtain ⟨last, read, -⟩ := stringBody_complete (.behind front) stands.here inside
    rw [read] at scanned
    cases scanned
  · exact .badEscape rfl bad

/-! ### Characters and tokens -/

theorem character_fault (stands : cursor.Stands (front ++ ['\\']) text failure)
    (scanned : character settings (.behind front) cursor = (.error fault, after))
    (plain : fault.FromText) : HasFault settings (front ++ '\\' :: text) failure fault := by
  have nameless : ¬ CharacterText [] := fun named => named.ne_nil rfl
  unfold character at scanned
  simp only at scanned
  split at scanned
  · next taken =>
    cases scanned
    exact absurd plain (Cursor.next_failed taken)
  · next taken =>
    cases scanned
    obtain ⟨rfl, -, -⟩ := stands.of_next_ended taken
    have whole : front ++ ['\\'] = front ++ '\\' :: ([] ++ []) := rfl
    exact .invalidCharacter whole nameless (fun _ => nofun) (fun filled => absurd rfl filled)
  · next c position inside taken =>
    obtain ⟨rest, rfl, -, there, -⟩ := stands.of_next_char taken
    split at scanned
    · next blank =>
      cases scanned
      have whole : front ++ '\\' :: c :: rest = front ++ '\\' :: ([] ++ c :: rest) := rfl
      refine .invalidCharacter whole nameless ?_ (fun filled => absurd rfl filled)
      intro _ d first
      cases first
      exact blank
    split at scanned
    · next token =>
      rcases Scanned.of_judge_error scanned with failed | ⟨run, read, named⟩
      · exact absurd plain (tokenRun_fault failed)
      · obtain ⟨rest, rfl, all, ends, -⟩ := tokenRun_sound there.here read
        split at named
        · cases named
        · next invalid =>
          cases named
          have whole : front ++ '\\' :: c :: (run ++ rest) = front ++ '\\' :: (c :: run ++ rest) :=
            rfl
          exact .invalidCharacter whole
            (fun named => invalid (isCharacter_iff.2 named)) (fun empty => nomatch empty)
            (fun _ => ⟨List.forall_mem_cons.2 ⟨token, all⟩, ends⟩)
    · have single : isCharacter [c] = true := isCharacter_iff.2 (.single c)
      rw [if_pos single] at scanned
      cases scanned

theorem keyword_fault (stands : cursor.Stands (front ++ [':']) text failure)
    (scanned : keyword settings (.behind front) cursor = (.error fault, after))
    (plain : fault.FromText) : HasFault settings (front ++ ':' :: text) failure fault := by
  rcases Scanned.of_judge_error scanned with failed | ⟨run, read, named⟩
  · exact absurd plain (tokenRun_fault failed)
  · obtain ⟨rest, rfl, all, ends, -⟩ := tokenRun_sound stands.here read
    split at named
    · next nameless =>
      cases named
      simp only [Bool.or_eq_true, List.isEmpty_iff, decide_eq_true_eq] at nameless
      exact .invalidKeyword rfl nameless all ends
    · cases named

theorem tokenKind?_eq_none {run : List Char} (none_found : tokenKind? run = none) :
    NumericStart run ∧ ¬ IntegerText run ∧ ¬ FloatText run := by
  have no_kind : ∀ kind, ¬ TokenText kind run := by
    intro kind of_kind
    rw [tokenKind?_eq_some_iff.2 of_kind] at none_found
    cases none_found
  exact ⟨by_contra fun symbol => no_kind _ (.symbol symbol),
    fun integer => no_kind _ (.integer integer),
    fun float => no_kind _ (.float float)⟩

theorem token_fault {c : Char} (stands : cursor.Stands (front ++ [c]) text failure)
    (first : settings.isTokenChar c = true)
    (scanned : token settings c (.behind front) cursor = (.error fault, after))
    (plain : fault.FromText) : HasFault settings (front ++ c :: text) failure fault := by
  rcases Scanned.of_judge_error scanned with failed | ⟨run, read, named⟩
  · exact absurd plain (tokenRun_fault failed)
  · obtain ⟨rest, rfl, all, ends, -⟩ := tokenRun_sound stands.here read
    split at named
    · cases named
    · next none_found =>
      cases named
      obtain ⟨numeric, no_integer, no_float⟩ := tokenKind?_eq_none none_found
      have whole : front ++ c :: (run ++ rest) = front ++ (c :: run ++ rest) := rfl
      exact .invalidNumber whole numeric no_integer no_float
        (List.forall_mem_cons.2 ⟨first, all⟩) ends

/-! ### Openings -/

theorem readerMacro_fault {kind : WrapperKind}
    (scanned : readerMacro kind start cursor = (.error fault, after)) : ¬ fault.FromText := by
  unfold readerMacro at scanned
  split at scanned
  · split at scanned
    · next taken =>
      cases scanned
      exact Cursor.next_failed taken
    · cases scanned
    · split at scanned <;> cases scanned
  · cases scanned

/-- What can stand behind a number sign. -/
theorem opens_hash {c : Char} {rest inside : List Char} {construct : Construct}
    (opens : Opens settings ('#' :: c :: rest) construct inside) :
    c = '{' ∨ (c = '_' ∧ settings.discard = true) ∨ (c = '\'' ∧ settings.readerMacros = true) ∨
      (isAlphabetic c = true ∧ settings.taggedLiterals = true) := by
  generalize whole : '#' :: c :: rest = text at opens
  cases opens with
  | collection bracket =>
    rcases bracket with (_ | _ | _) | _ <;> cases whole
    exact Or.inl rfl
  | wrapper kind enabled _ =>
    cases kind <;> cases whole
    exact Or.inr (Or.inr (Or.inl ⟨rfl, enabled⟩))
  | tag enabled alphabetic _ _ =>
    cases whole
    exact Or.inr (Or.inr (Or.inr ⟨alphabetic, enabled⟩))
  | discard enabled =>
    cases whole
    exact Or.inr (Or.inl ⟨rfl, enabled⟩)

theorem dispatch_fault (stands : cursor.Stands (front ++ ['#']) text failure)
    (scanned : dispatch settings (.behind front) cursor = (.error fault, after))
    (plain : fault.FromText) : HasFault settings (front ++ '#' :: text) failure fault := by
  unfold dispatch at scanned
  split at scanned
  · next taken =>
    cases scanned
    exact absurd plain (Cursor.next_failed taken)
  · next taken =>
    cases scanned
    obtain ⟨rfl, rfl, -⟩ := stands.of_next_ended taken
    exact .loneHash rfl rfl
  · next c position inside taken =>
    obtain ⟨rest, rfl, rfl, there, -⟩ := stands.of_next_char taken
    split at scanned
    · cases scanned
    next no_brace =>
    split at scanned
    · cases scanned
    next no_discard =>
    split at scanned
    · cases scanned
    next no_quote =>
    split at scanned
    · exact absurd plain (tokenRun_fault (Scanned.of_map_error scanned))
    next no_tag =>
    cases scanned
    refine .invalidDispatch rfl ?_
    intro construct inside opens
    rcases opens_hash opens with brace | discard | quote | tag
    · exact no_brace brace
    · exact no_discard discard
    · exact no_quote quote
    · exact no_tag tag

/-! ### Whatever comes first -/

theorem mem_of_macroKind? {c : Char} {kind : WrapperKind} (found : macroKind? c = some kind) :
    c ∈ ['\'', '\x60', '~', '@', '^'] := by
  by_contra unlisted
  simp only [List.mem_cons, List.not_mem_nil, or_false, not_or] at unlisted
  simp [macroKind?, unlisted] at found

/-- What begins a lexeme and is no sign, delimiter or white space belongs to a token. -/
theorem isTokenChar_of_beginning {c : Char} (no_blank : settings.isBlank c = false)
    (no_comment : c ≠ ';') (no_closer : ¬ (c = ')' ∨ c = ']' ∨ c = '}')) (no_paren : c ≠ '(')
    (no_bracket : c ≠ '[') (no_brace : c ≠ '{') (no_quote : c ≠ '"') (no_backslash : c ≠ '\\') :
    settings.isTokenChar c = true := by
  simp only [not_or] at no_closer
  simp [Settings.isTokenChar, isDelimiter, no_blank, no_comment, no_closer, no_paren, no_bracket,
    no_brace, no_quote, no_backslash]

theorem beginning_fault {c : Char} (no_blank : settings.isBlank c = false) (no_comment : c ≠ ';')
    (stands : cursor.Stands (front ++ [c]) text failure)
    (scanned : beginning settings c (.behind front) cursor = (.error fault, after))
    (plain : fault.FromText) : HasFault settings (front ++ c :: text) failure fault := by
  unfold beginning at scanned
  split at scanned
  · cases scanned
  next no_closer =>
  split at scanned
  · cases scanned
  next no_paren =>
  split at scanned
  · cases scanned
  next no_bracket =>
  split at scanned
  · cases scanned
  next no_brace =>
  split at scanned
  · next quote =>
    subst quote
    exact string_fault stands (Scanned.of_map_error scanned) plain
  next no_quote =>
  split at scanned
  · next backslash =>
    subst backslash
    exact character_fault stands scanned plain
  next no_backslash =>
  split at scanned
  · next colon =>
    subst colon
    exact keyword_fault stands scanned plain
  split at scanned
  · next hash =>
    subst hash
    exact dispatch_fault stands scanned plain
  have token := isTokenChar_of_beginning no_blank no_comment no_closer no_paren no_bracket no_brace
    no_quote no_backslash
  split at scanned
  · next kind found =>
    split at scanned
    · exact absurd plain (readerMacro_fault scanned)
    · next disabled =>
      cases scanned
      exact .unexpectedChar rfl (mem_of_macroKind? found) (Bool.eq_false_iff.2 disabled)
  · rw [if_pos token] at scanned
    exact token_fault stands token scanned plain

/-- The character at which skipping stops is no white space and begins no comment. -/
theorem skipBlank_stop {comment : Bool} {c : Char} {position : Position}
    (skipped : skipBlank settings comment cursor = (.ok (some (c, position)), after)) :
    settings.isBlank c = false ∧ c ≠ ';' := by
  fun_induction skipBlank settings comment cursor with
  | case1 => cases skipped
  | case2 => cases skipped
  | case3 cursor d place inside taken _ ih => exact ih skipped
  | case4 comment cursor place inside _ taken _ ih => exact ih skipped
  | case5 comment cursor d place inside taken _ _ _ _ ih => exact ih skipped
  | case6 comment cursor d place inside taken _ _ no_comment no_blank =>
    cases skipped
    exact ⟨Bool.eq_false_iff.2 no_blank, no_comment⟩

/-- What keeps a lexeme from being read is a fault of the text, or the failure behind it. -/
theorem read_fault (stands : cursor.Stands front text failure)
    (scanned : read settings cursor = (.error fault, after)) :
    HasFault settings (front ++ text) failure fault := by
  by_cases plain : fault.FromText
  · unfold read at scanned
    split at scanned
    · next skipped =>
      cases scanned
      exact absurd plain (skipBlank_fault skipped)
    · cases scanned
    · next c position inside skipped =>
      obtain ⟨gap, rest, rfl, rfl, there⟩ := skipBlank_located stands skipped
      obtain ⟨no_blank, no_comment⟩ := skipBlank_stop skipped
      have has := beginning_fault no_blank no_comment there scanned plain
      rwa [List.append_assoc] at has
  · rcases (observes_read settings cursor).stands stands with ⟨_, _, _, _, own⟩ | ⟨error, last,
      failing, failed⟩
    · exact absurd (own fault (by rw [scanned])) plain
    · rw [scanned] at failed
      cases failed
      exact .stream failing

end Lexeme

end Edn
