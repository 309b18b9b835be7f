import Edn.Construct
import Edn.Cursor
import Edn.Literal
import Edn.Text.Alphabetic

/-!
# Lexemes: the pieces of a text between which nothing is nested

A lexeme is an atom, or it opens a construct, or it closes a collection. `Lexeme.read` takes the
next one, with the white space and comments before it. Nothing behind a lexeme is looked at unless
its end shows no other way: the character after a token, and the character after a tilde, are taken
and given back. `Lexeme.Progress` shows that every lexeme takes at least one character.
-/

namespace Edn

/-- The next piece of a text. -/
inductive Lexeme
  /-- An atom by its text, without the sign that selects its kind. -/
  | atom (kind : AtomKind) (text : List Char)
  /-- The start of a construct. -/
  | opening (construct : Construct) (start : Position)
  /-- A character that closes collections. -/
  | closing (c : Char) (position : Position)
  /-- The end of the text. -/
  | ended
  deriving Repr, DecidableEq

namespace Lexeme

/-- What reading a piece of text brings, and the place after it. -/
abbrev Scanned (α : Type) := Except Fault α × Cursor

/-- A function applied to the piece. -/
def Scanned.map {α β : Type} (f : α → β) (scanned : Scanned α) : Scanned β :=
  (scanned.1.map f, scanned.2)

/-- A piece that is judged once it is complete. -/
def Scanned.judge {α β : Type} (f : α → Except Fault β) (scanned : Scanned α) : Scanned β :=
  (scanned.1.bind f, scanned.2)

@[simp] theorem Scanned.map_snd {α β : Type} (f : α → β) (scanned : Scanned α) :
    (scanned.map f).2 = scanned.2 := rfl

/-! ## Runs of characters -/

/-- Takes white space and comments, and the first character after them. A comment runs from a
semicolon to the end of the line. -/
def skipBlank (settings : Settings) (comment : Bool) (cursor : Cursor) :
    Scanned (Option (Char × Position)) :=
  match taken : cursor.next with
  | (.failed fault, after) => (.error fault, after)
  | (.ended, after) => (.ok none, after)
  | (.char c position, after) =>
    have := Cursor.size_next_of_char taken
    if comment then skipBlank settings (c ≠ '\n') after
    else if c = ';' then skipBlank settings true after
    else if settings.isBlank c then skipBlank settings false after
    else (.ok (some (c, position)), after)
termination_by cursor.size

/-- Takes characters as long as they can stand in a token, and gives the next one back. -/
def tokenRun (settings : Settings) (cursor : Cursor) : Scanned (List Char) :=
  match taken : cursor.next with
  | (.failed fault, after) => (.error fault, after)
  | (.ended, after) => (.ok [], after)
  | (.char c position, after) =>
    have := Cursor.size_next_of_char taken
    if settings.isTokenChar c then (tokenRun settings after).map (c :: ·)
    else (.ok [], after.unread c position (Cursor.free_of_next taken))
termination_by cursor.size

/-! ## Strings -/

/-- Takes hexadecimal digits of a string that starts at `start`. -/
def hexDigits (start : Position) : (count : Nat) → Cursor → Scanned (List Char)
  | 0, cursor => (.ok [], cursor)
  | count + 1, cursor =>
    match cursor.next with
    | (.failed fault, after) => (.error fault, after)
    | (.ended, after) => (.error ⟨.unterminatedString, start⟩, after)
    | (.char c position, after) =>
      if isHexDigit c then (hexDigits start count after).map (c :: ·)
      else (.error ⟨.notAHexDigit c, position⟩, after)

/-- Takes what follows a backslash in a string that starts at `start`. -/
def escape (start : Position) (cursor : Cursor) : Scanned (List Char) :=
  match cursor.next with
  | (.failed fault, after) => (.error fault, after)
  | (.ended, after) => (.error ⟨.unterminatedString, start⟩, after)
  | (.char c position, after) =>
    if c = 'u' then (hexDigits start 4 after).map (c :: ·)
    else if Literal.isSimpleEscape c then (.ok [c], after)
    else (.error ⟨.invalidEscape c, position⟩, after)

theorem size_hexDigits_le (start : Position) (count : Nat) (cursor : Cursor) :
    (hexDigits start count cursor).2.size ≤ cursor.size := by
  induction count generalizing cursor with
  | zero => exact Nat.le_refl _
  | succ count ih =>
    have step := Cursor.size_next_le cursor
    unfold hexDigits
    split <;> rename_i after taken <;> rw [taken] at step
    · exact step
    · exact step
    · split
      · exact Nat.le_trans (ih _) step
      · exact step

theorem size_escape_le (start : Position) (cursor : Cursor) :
    (escape start cursor).2.size ≤ cursor.size := by
  have step := Cursor.size_next_le cursor
  unfold escape
  split <;> rename_i after taken <;> rw [taken] at step
  · exact step
  · exact step
  · split
    · exact Nat.le_trans (size_hexDigits_le _ _ _) step
    · split <;> exact step

/-- Takes a string up to its closing quote. Escapes are checked and kept as they are written. -/
def stringBody (start : Position) (cursor : Cursor) : Scanned (List Char) :=
  match taken : cursor.next with
  | (.failed fault, after) => (.error fault, after)
  | (.ended, after) => (.error ⟨.unterminatedString, start⟩, after)
  | (.char c _, after) =>
    have := Cursor.size_next_of_char taken
    if c = '"' then (.ok [], after)
    else if c = '\\' then
      match escaped : escape start after with
      | (.error fault, after) => (.error fault, after)
      | (.ok text, rest) =>
        have : rest.size ≤ after.size := by simpa [escaped] using size_escape_le start after
        (stringBody start rest).map fun body => c :: (text ++ body)
    else (stringBody start after).map (c :: ·)
termination_by cursor.size

/-! ## Lexemes by their first character -/

/-- What follows a backslash outside strings. A token is taken as a whole; any other character
stands alone. -/
def character (settings : Settings) (start : Position) (cursor : Cursor) : Scanned Lexeme :=
  let named (text : List Char) : Except Fault Lexeme :=
    if Literal.isCharacter text then .ok (.atom .character text)
    else .error ⟨.invalidCharacter (String.ofList text), start⟩
  match cursor.next with
  | (.failed fault, after) => (.error fault, after)
  | (.ended, after) => (.error ⟨.invalidCharacter "", start⟩, after)
  | (.char c _, after) =>
    if isBlank c then (.error ⟨.invalidCharacter "", start⟩, after)
    else if settings.isTokenChar c then
      (tokenRun settings after).judge fun run => named (c :: run)
    else (named [c], after)

/-- What follows a colon. -/
def keyword (settings : Settings) (start : Position) (cursor : Cursor) : Scanned Lexeme :=
  (tokenRun settings cursor).judge fun name =>
    if name.isEmpty || name.head? = some ':' then
      .error ⟨.invalidKeyword (String.ofList name), start⟩
    else .ok (.atom .keyword name)

/-- A number or symbol that begins with `c`. -/
def token (settings : Settings) (c : Char) (start : Position) (cursor : Cursor) :
    Scanned Lexeme :=
  (tokenRun settings cursor).judge fun run =>
    match Literal.tokenKind? (c :: run) with
    | some kind => .ok (.atom kind (c :: run))
    | none => .error ⟨.invalidNumber (String.ofList (c :: run)), start⟩

/-- The reader macros of one character. -/
def macroKind? (c : Char) : Option WrapperKind :=
  if c = '\'' then some .quote
  else if c = '\x60' then some .quasiquote
  else if c = '~' then some .unquote
  else if c = '@' then some .deref
  else if c = '^' then some .metadata
  else none

/-- What follows the character of a reader macro: only after a tilde, an at sign belongs to it. -/
def readerMacro (kind : WrapperKind) (start : Position) (cursor : Cursor) : Scanned Lexeme :=
  if kind = .unquote then
    match taken : cursor.next with
    | (.failed fault, after) => (.error fault, after)
    | (.ended, after) => (.ok (.opening (.wrapper .unquote) start), after)
    | (.char c position, after) =>
      if c = '@' then (.ok (.opening (.wrapper .unquoteSplice) start), after)
      else
        (.ok (.opening (.wrapper .unquote) start),
          after.unread c position (Cursor.free_of_next taken))
  else (.ok (.opening (.wrapper kind) start), cursor)

/-- What follows a hash sign. -/
def dispatch (settings : Settings) (start : Position) (cursor : Cursor) : Scanned Lexeme :=
  match cursor.next with
  | (.failed fault, after) => (.error fault, after)
  | (.ended, after) => (.error ⟨.missingForm "#", start⟩, after)
  | (.char c position, after) =>
    if c = '{' then (.ok (.opening (.collection (.sequence .set)) start), after)
    else if c = '_' ∧ settings.discard then (.ok (.opening .discard start), after)
    else if c = '\'' ∧ settings.readerMacros then
      (.ok (.opening (.wrapper .varQuote) start), after)
    else if isAlphabetic c ∧ settings.taggedLiterals then
      (tokenRun settings after).map fun run =>
        .opening (.tag (String.ofList (c :: run))) start
    else (.error ⟨.invalidDispatch c, position⟩, after)

/-- The lexeme that begins with `c`, which is no white space and begins no comment. -/
def beginning (settings : Settings) (c : Char) (start : Position) (cursor : Cursor) :
    Scanned Lexeme :=
  if c = ')' ∨ c = ']' ∨ c = '}' then (.ok (.closing c start), cursor)
  else if c = '(' then (.ok (.opening (.collection (.sequence .list)) start), cursor)
  else if c = '[' then (.ok (.opening (.collection (.sequence .vector)) start), cursor)
  else if c = '{' then (.ok (.opening (.collection .map) start), cursor)
  else if c = '"' then (stringBody start cursor).map (.atom .string)
  else if c = '\\' then character settings start cursor
  else if c = ':' then keyword settings start cursor
  else if c = '#' then dispatch settings start cursor
  else
    match macroKind? c with
    | some kind =>
      if settings.readerMacros then readerMacro kind start cursor
      else (.error ⟨.unexpectedChar c, start⟩, cursor)
    | none =>
      if settings.isTokenChar c then token settings c start cursor
      else (.error ⟨.unexpectedChar c, start⟩, cursor)

/-- Takes the next lexeme. -/
def read (settings : Settings) (cursor : Cursor) : Scanned Lexeme :=
  match skipBlank settings false cursor with
  | (.error fault, after) => (.error fault, after)
  | (.ok none, after) => (.ok .ended, after)
  | (.ok (some (c, position)), after) => beginning settings c position after

end Lexeme

end Edn
