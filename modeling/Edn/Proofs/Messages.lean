import Edn.Session.Basic

/-!
# What messages say

The texts of errors, each written out as a whole. A message names what is wrong, then what is being
read, and then the line, counted from one, and the column, counted from zero.
-/

namespace Edn

/-! ## What is wrong -/

/-- The words for an error. Whatever characters, names or numbers it is about stand in them. -/
inductive ReadError.Tells : ReadError → String → Prop
  | inputFailed (error : IoError) : Tells (.stream (.io error)) s!"IO error: {error.message}"
  | invalidUtf8 (length : Nat) :
    Tells (.stream (.invalidUtf8 length)) s!"invalid UTF-8 sequence of {length} byte(s)"
  | unexpectedClosing (c : Char) :
    Tells (.unexpectedClosing c) s!"unexpected closing character '{c}'"
  | mismatch (opening : String) (line column : Nat) (expected got : Char) :
    Tells (.mismatch opening ⟨line, column⟩ expected got)
      s!"'{opening}' @{line + 1}.{column} expects '{expected}', got '{got}'"
  | prematureEnd (c : Char) :
    Tells (.prematureEnd c) s!"premature EOF while expecting closing character '{c}'"
  | unevenMap (forms : Nat) :
    Tells (.unevenMap forms) s!"map literal must have an even number of forms, got {forms}"
  | unterminatedString : Tells .unterminatedString "unexpected EOF in string starting"
  | invalidEscape (c : Char) : Tells (.invalidEscape c) s!"invalid escaped character '{c}'"
  | notAHexDigit (c : Char) : Tells (.notAHexDigit c) s!"not a hex digit: '{c}'"
  | invalidCharacter (text : String) :
    Tells (.invalidCharacter text) s!"invalid character literal '\\{text}'"
  | invalidNumber (text : String) : Tells (.invalidNumber text) s!"invalid number '{text}'"
  | invalidKeyword (text : String) : Tells (.invalidKeyword text) s!"invalid keyword ':{text}'"
  | missingForm (after : String) : Tells (.missingForm after) s!"missing form after '{after}'"
  | invalidDispatch (c : Char) : Tells (.invalidDispatch c) s!"unsupported dispatch '#{c}'"
  | unexpectedChar (c : Char) : Tells (.unexpectedChar c) s!"unexpected character '{c}'"
  | tooDeep : Tells .tooDeep "nesting too deep"
  | source (message : String) : Tells (.source message) message

theorem append_inQuotes (front : String) (c : Char) :
    front ++ inQuotes c = front ++ "'" ++ toString c ++ "'" := by
  simp only [inQuotes, String.append_assoc]
  rfl

/-- The words in front of a character may be written with its first quote or without. -/
theorem ReadError.Tells.quoting {error : ReadError} {front words : String} {c : Char}
    (tells : error.Tells (words ++ toString c ++ "'")) (joined : front ++ "'" = words) :
    error.Tells (front ++ inQuotes c) := by
  rw [append_inQuotes, joined]
  exact tells

theorem ReadError.tells_message (error : ReadError) : error.Tells error.message := by
  cases error with
  | stream error =>
    cases error with
    | io error => exact .inputFailed error
    | invalidUtf8 length => exact .invalidUtf8 length
  | unexpectedClosing c => exact (Tells.unexpectedClosing c).quoting rfl
  | mismatch opening opened expected got =>
    have tells := Tells.mismatch opening opened.line opened.column expected got
    change Tells _ ("'" ++ opening ++ "' " ++ opened.render ++ " expects " ++ inQuotes expected ++
      ", got " ++ inQuotes got)
    simp only [append_inQuotes, Position.render, String.append_assoc, String.reduceAppend]
    -- Only the quote and the sign of the place are still apart.
    rw [← @String.append_assoc "' " "@"]
    simp only [String.append_assoc] at tells
    exact tells
  | prematureEnd c => exact (Tells.prematureEnd c).quoting rfl
  | unevenMap forms => exact .unevenMap forms
  | unterminatedString => exact .unterminatedString
  | invalidEscape c => exact (Tells.invalidEscape c).quoting rfl
  | notAHexDigit c => exact (Tells.notAHexDigit c).quoting rfl
  | invalidCharacter text => exact .invalidCharacter text
  | invalidNumber text => exact .invalidNumber text
  | invalidKeyword text => exact .invalidKeyword text
  | missingForm after => exact .missingForm after
  | invalidDispatch c => exact .invalidDispatch c
  | unexpectedChar c => exact (Tells.unexpectedChar c).quoting rfl
  | tooDeep => exact .tooDeep
  | source message => exact .source message

/-- The words for a node that is no value. -/
inductive NodeError.Tells : NodeError → String → Prop
  | malformed : Tells .malformed "error encountered while parsing"
  | nestedEnd : Tells .nestedEnd "unexpected end of input inside a form"
  | unknownKind : Tells .unknownKind "unknown value kind"
  | unknownAtom : Tells .unknownAtom "unknown primitive value"
  | tagNotSymbol : Tells .tagNotSymbol "tag of tagged literal is not a symbol"
  | tooDeep : Tells .tooDeep "nesting too deep"

theorem NodeError.tells_message (offence : NodeError) : offence.Tells offence.message := by
  cases offence with
  | malformed => exact .malformed
  | nestedEnd => exact .nestedEnd
  | unknownKind => exact .unknownKind
  | unknownAtom => exact .unknownAtom
  | tagNotSymbol => exact .tagNotSymbol
  | tooDeep => exact .tooDeep

/-! ## Where it is wrong -/

/-- The characters that stand for one character of a quoted name: a letter for each of the four
controls that have one, a backslash before a backslash or a double quote, and the code point of any
other character that cannot be shown. -/
inductive Quotes : Char → List Char → Prop
  | null : Quotes '\x00' ['\\', '0']
  | tab : Quotes '\t' ['\\', 't']
  | carriageReturn : Quotes '\r' ['\\', 'r']
  | newline : Quotes '\n' ['\\', 'n']
  | backslash : Quotes '\\' ['\\', '\\']
  | doubleQuote : Quotes '"' ['\\', '"']
  | shown {c : Char} (plain : c ∉ ['\\', '"']) (visible : isPrintable c = true) : Quotes c [c]
  | codePoint {c : Char} (unnamed : c ∉ ['\x00', '\t', '\r', '\n'])
    (hidden : isPrintable c = false) :
    Quotes c (['\\', 'u', '{'] ++ Nat.toDigits 16 c.toNat ++ ['}'])

/-- The characters that stand for a quoted name, those for each of its characters in turn. -/
inductive QuotesAll : List Char → List Char → Prop
  | nil : QuotesAll [] []
  | cons {c : Char} {text pieces shown : List Char} :
    Quotes c pieces → QuotesAll text shown → QuotesAll (c :: text) (pieces ++ shown)

theorem quotes_quotedChar (c : Char) : Quotes c (quotedChar c) := by
  fun_cases quotedChar c with
  | case1 same => exact same ▸ .null
  | case2 _ same => exact same ▸ .tab
  | case3 _ _ same => exact same ▸ .carriageReturn
  | case4 _ _ _ same => exact same ▸ .newline
  | case5 _ _ _ _ same => exact same ▸ .backslash
  | case6 _ _ _ _ _ same => exact same ▸ .doubleQuote
  | case7 _ _ _ _ backslash doubleQuote visible =>
    have plain : c ∉ ['\\', '"'] := by simp only [List.mem_cons, backslash, doubleQuote,
      List.not_mem_nil, or_self, not_false_eq_true]
    exact .shown plain visible
  | case8 null tab carriageReturn newline _ _ hidden =>
    have unnamed : c ∉ ['\x00', '\t', '\r', '\n'] := by simp only [List.mem_cons, null, tab,
      carriageReturn, newline, List.not_mem_nil, or_self, not_false_eq_true]
    exact .codePoint unnamed (Bool.of_not_eq_true hidden)

theorem quotesAll_flatMap (text : List Char) : QuotesAll text (text.flatMap quotedChar) := by
  induction text with
  | nil => exact .nil
  | cons c text ih => exact .cons (quotes_quotedChar c) ih

/-- The words for what is being read: the quoted path of a file, any other name in parentheses. -/
inductive Origin.Tells : Origin → String → Prop
  | file {path : String} {shown : List Char} : QuotesAll path.toList shown →
    Tells (.file path) ("in \"" ++ String.ofList shown ++ "\"")
  | named (name : String) : Tells (.named name) ("from (" ++ name ++ ")")

theorem Origin.tells_render (origin : Origin) :
    origin.Tells (origin.preposition ++ " " ++ origin.render) := by
  cases origin with
  | file path =>
    have tells := Tells.file (quotesAll_flatMap path.toList)
    simp only [preposition, render, quoted, String.ofList_append, ← String.append_assoc]
    exact tells
  | named name =>
    have tells := Tells.named name
    simp only [preposition, render, String.reduceAppend, ← String.append_assoc]
    exact tells

/-! ## Whole messages -/

/-- A message is what is wrong, what is being read, and the line and the column. -/
theorem Diagnostic.exists_render_eq (error : ReadError) (position : Position) (origin : Origin) :
    ∃ reason place, error.Tells reason ∧ origin.Tells place ∧
      render ⟨⟨error, position⟩, origin⟩ =
        s!"{reason} {place}@{position.line + 1}.{position.column}" := by
  refine ⟨_, _, error.tells_message, origin.tells_render, ?_⟩
  change render _ = error.message ++ " " ++ (origin.preposition ++ " " ++ origin.render) ++ "@" ++
    toString (position.line + 1) ++ "." ++ toString position.column
  simp only [render, Position.render, String.append_assoc]

theorem Session.exists_lastDiagnostic_eq {σ : Type} {session : Session σ} {error : ReadError}
    {position : Position} {origin : Origin}
    (noted : session.diagnostic = some ⟨⟨error, position⟩, origin⟩) :
    ∃ reason place, error.Tells reason ∧ origin.Tells place ∧
      session.lastDiagnostic =
        some s!"{reason} {place}@{position.line + 1}.{position.column}" := by
  obtain ⟨reason, place, tells, names, whole⟩ :=
    Diagnostic.exists_render_eq error position origin
  refine ⟨reason, place, tells, names, ?_⟩
  rw [lastDiagnostic, noted, Option.map_some, whole]

end Edn
