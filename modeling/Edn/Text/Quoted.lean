import Edn.Text.Printable

/-!
Quoted text, for messages: double quotes around it, a backslash escape for whatever cannot stand
for itself. Single quotes stand for themselves.
-/

namespace Edn

/-- A character by its code point, `\u` with lower-case hexadecimal digits in braces. -/
def codePointEscape (c : Char) : List Char :=
  ['\\', 'u', '{'] ++ Nat.toDigits 16 c.toNat ++ ['}']

/-- The characters that stand for `c` between the quotes. -/
def quotedChar (c : Char) : List Char :=
  if c = '\x00' then ['\\', '0']
  else if c = '\t' then ['\\', 't']
  else if c = '\r' then ['\\', 'r']
  else if c = '\n' then ['\\', 'n']
  else if c = '\\' then ['\\', '\\']
  else if c = '"' then ['\\', '"']
  else if isPrintable c then [c]
  else codePointEscape c

/-- Text in double quotes. -/
def quoted (text : List Char) : List Char :=
  ['"'] ++ text.flatMap quotedChar ++ ['"']

/-- Quoted text in the pieces that it is printed in. -/
def quotedPieces (text : List Char) : List (List Char) :=
  [['"']] ++ text.map quotedChar ++ [['"']]

theorem flatten_quotedPieces (text : List Char) : (quotedPieces text).flatten = quoted text := by
  simp [quotedPieces, quoted, List.flatMap]

end Edn
