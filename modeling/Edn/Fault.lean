import Edn.Position
import Edn.Stream.CharStream

/-!
What can be wrong with a text, and where.
-/

namespace Edn

/-- Why a text cannot be read on. -/
inductive ReadError
  /-- The stream of characters stopped short. -/
  | stream (error : StreamError)
  /-- A closing character that nothing opened. -/
  | unexpectedClosing (c : Char)
  /-- A collection is closed by the wrong character. -/
  | mismatch (opening : String) (opened : Position) (expected got : Char)
  /-- The text ends inside a collection. -/
  | prematureEnd (closing : Char)
  /-- A map whose last key has no value. -/
  | unevenMap (forms : Nat)
  /-- The text ends inside a string. -/
  | unterminatedString
  /-- A backslash in a string before a character that it does not escape. -/
  | invalidEscape (c : Char)
  /-- A character among the four digits of a `\u` escape. -/
  | notAHexDigit (c : Char)
  /-- A backslash outside strings before a text that names no character. -/
  | invalidCharacter (text : String)
  /-- A token that begins like a number and is none. -/
  | invalidNumber (text : String)
  /-- A colon before a text that is no name. -/
  | invalidKeyword (text : String)
  /-- No form follows where one must. -/
  | missingForm (after : String)
  /-- A character that means nothing after `#`. -/
  | invalidDispatch (c : Char)
  /-- A character that begins no form. -/
  | unexpectedChar (c : Char)
  /-- More constructs are open than may be. -/
  | tooDeep
  /-- A report in the words of whoever produced the nodes. -/
  | source (message : String)
  deriving Repr, DecidableEq

/-- A character in single quotes. -/
def inQuotes (c : Char) : String := "'" ++ String.singleton c ++ "'"

/-- The text of the error. -/
def ReadError.message : ReadError → String
  | stream error => error.message
  | unexpectedClosing c => "unexpected closing character " ++ inQuotes c
  | mismatch opening opened expected got =>
    "'" ++ opening ++ "' " ++ opened.render ++ " expects " ++ inQuotes expected ++ ", got " ++
      inQuotes got
  | prematureEnd closing => "premature EOF while expecting closing character " ++ inQuotes closing
  | unevenMap forms => "map literal must have an even number of forms, got " ++ toString forms
  | unterminatedString => "unexpected EOF in string starting"
  | invalidEscape c => "invalid escaped character " ++ inQuotes c
  | notAHexDigit c => "not a hex digit: " ++ inQuotes c
  | invalidCharacter text => "invalid character literal '\\" ++ text ++ "'"
  | invalidNumber text => "invalid number '" ++ text ++ "'"
  | invalidKeyword text => "invalid keyword ':" ++ text ++ "'"
  | missingForm after => "missing form after '" ++ after ++ "'"
  | invalidDispatch c => "unsupported dispatch '#" ++ String.singleton c ++ "'"
  | unexpectedChar c => "unexpected character " ++ inQuotes c
  | tooDeep => "nesting too deep"
  | source message => message

/-- An error with the place it is about. -/
structure Fault where
  error : ReadError
  position : Position
  deriving Repr, DecidableEq

/-- The text of the error and its place. -/
def Fault.render (fault : Fault) : String :=
  fault.error.message ++ " " ++ fault.position.render

end Edn
