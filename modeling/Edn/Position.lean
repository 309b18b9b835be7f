/-!
Positions in a text. Lines and columns count from zero; a newline ends its line, every other
character moves one column on. Positions are shown with the line counted from one.
-/

namespace Edn

/-- The place of a character in a text. The counts are those of texts in which they stay below
`2 ^ 32`; a text with more lines, or with a line of more characters, is outside this account. -/
structure Position where
  line : Nat
  column : Nat
  deriving Repr, DecidableEq, Inhabited

namespace Position

/-- The place of the first character. -/
def origin : Position := ⟨0, 0⟩

/-- The place of the character that follows `c`. -/
def after (position : Position) (c : Char) : Position :=
  if c = '\n' then ⟨position.line + 1, 0⟩ else ⟨position.line, position.column + 1⟩

/-- The place of whatever follows the text. -/
def afterText (position : Position) (text : List Char) : Position :=
  text.foldl after position

/-- The text with the place of each of its characters, the first standing at `position`. -/
def number (position : Position) : List Char → List (Char × Position)
  | [] => []
  | c :: text => (c, position) :: number (position.after c) text

/-- The place as messages show it. -/
def render (position : Position) : String :=
  "@" ++ toString (position.line + 1) ++ "." ++ toString position.column

end Position

end Edn
