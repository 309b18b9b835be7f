import Edn.Text.Quoted
import Edn.Value.Basic

/-!
# The text of a value

The text of data reads back as the same value: one space separates neighbours, and nothing stands
between a sigil and its form, except where the two would run together. The reports are written so
that nothing reads them: `#<` opens no form.
-/

namespace Edn

/-- What stands before the text of an atom. -/
def AtomKind.opening : AtomKind → List Char
  | keyword => [':']
  | string => ['"']
  | character => ['\\']
  | integer | float | symbol => []

/-- What stands behind the text of an atom. -/
def AtomKind.closing : AtomKind → List Char
  | string => ['"']
  | _ => []

/-- Texts with one space between neighbours. -/
def spaced : List (List Char) → List Char
  | [] => []
  | [text] => text
  | text :: texts => text ++ ' ' :: spaced texts

/-- The pieces of several texts, with one space between neighbours. -/
def spacedPieces : List (List (List Char)) → List (List Char)
  | [] => []
  | [pieces] => pieces
  | pieces :: texts => pieces ++ [' '] :: spacedPieces texts

theorem flatten_spacedPieces (texts : List (List (List Char))) :
    (spacedPieces texts).flatten = spaced (texts.map List.flatten) := by
  induction texts with
  | nil => rfl
  | cons pieces texts ih =>
    cases texts with
    | nil => rfl
    | cons others texts =>
      rw [spacedPieces, List.flatten_append, List.flatten_cons, ih]
      · rfl
      · exact nofun

/-- What stands before the form under a reader macro: the sigil, and after `~` a space where the
form begins with `@`, because `~@` is a sigil of its own. -/
def WrapperKind.lead : WrapperKind → Value → List Char
  | unquote, .wrapped .deref _ => ['~', ' ']
  | kind, _ => kind.sigil.toList

namespace Value

mutual

/-- The characters of a value's text. -/
def written : Value → List Char
  | endOfInput => "#<end>".toList
  | error message => "#<error ".toList ++ quoted message.toList ++ ['>']
  | atom kind text => kind.opening ++ text.toList ++ kind.closing
  | sequence kind items => kind.opening.toList ++ spaced (writtenItems items) ++ [kind.closing]
  | dictionary entries => ['{'] ++ spaced (writtenEntries entries) ++ ['}']
  | tagged tag content => '#' :: tag.toList ++ ' ' :: written content
  | wrapped kind content => kind.lead content ++ written content

/-- The texts of several values. -/
def writtenItems : List Value → List (List Char)
  | [] => []
  | item :: items => written item :: writtenItems items

/-- The texts of keys and values in turn. -/
def writtenEntries : List (Value × Value) → List (List Char)
  | [] => []
  | (key, value) :: entries => written key :: written value :: writtenEntries entries

end

theorem written_error (message : String) :
    (error message).written = "#<error ".toList ++ quoted message.toList ++ ['>'] := rfl

theorem written_atom (kind : AtomKind) (text : String) :
    (atom kind text).written = kind.opening ++ text.toList ++ kind.closing := rfl

theorem written_sequence (kind : SequenceKind) (items : List Value) :
    (sequence kind items).written =
      kind.opening.toList ++ spaced (writtenItems items) ++ [kind.closing] := rfl

theorem written_dictionary (entries : List (Value × Value)) :
    (dictionary entries).written = ['{'] ++ spaced (writtenEntries entries) ++ ['}'] := rfl

theorem written_tagged (tag : String) (content : Value) :
    (tagged tag content).written = '#' :: tag.toList ++ ' ' :: written content := rfl

theorem written_wrapped (kind : WrapperKind) (content : Value) :
    (wrapped kind content).written = kind.lead content ++ written content := rfl

theorem writtenItems_eq (items : List Value) : writtenItems items = items.map written := by
  induction items with
  | nil => rfl
  | cons item items ih => exact congrArg (written item :: ·) ih

mutual

/-- The pieces that a value's text is printed in, one after another; some may be empty. -/
def pieces : Value → List (List Char)
  | endOfInput => ["#<end>".toList]
  | error message => "#<error ".toList :: quotedPieces message.toList ++ [['>']]
  | atom kind text => [kind.opening, text.toList, kind.closing]
  | sequence kind items =>
    kind.opening.toList :: spacedPieces (piecesItems items) ++ [[kind.closing]]
  | dictionary entries => ['{'] :: spacedPieces (piecesEntries entries) ++ [['}']]
  | tagged tag content => ['#'] :: tag.toList :: [' '] :: pieces content
  | wrapped kind content => kind.lead content :: pieces content

/-- The pieces of several values. -/
def piecesItems : List Value → List (List (List Char))
  | [] => []
  | item :: items => pieces item :: piecesItems items

/-- The pieces of keys and values in turn. -/
def piecesEntries : List (Value × Value) → List (List (List Char))
  | [] => []
  | (key, value) :: entries => pieces key :: pieces value :: piecesEntries entries

end

mutual

/-- The pieces together are the text. -/
theorem flatten_pieces (value : Value) : value.pieces.flatten = value.written := by
  match value with
  | endOfInput => rfl
  | error message => simp [pieces, written_error, flatten_quotedPieces]
  | atom kind text => simp [pieces, written_atom]
  | sequence kind items =>
    simp [pieces, written_sequence, flatten_spacedPieces, flatten_piecesItems items]
  | dictionary entries =>
    simp [pieces, written_dictionary, flatten_spacedPieces, flatten_piecesEntries entries]
  | tagged tag content => simp [pieces, written_tagged, flatten_pieces content]
  | wrapped kind content => simp [pieces, written_wrapped, flatten_pieces content]

theorem flatten_piecesItems (items : List Value) :
    (piecesItems items).map List.flatten = writtenItems items := by
  match items with
  | [] => rfl
  | item :: items =>
    rw [piecesItems, writtenItems, List.map_cons, flatten_pieces item, flatten_piecesItems items]

theorem flatten_piecesEntries (entries : List (Value × Value)) :
    (piecesEntries entries).map List.flatten = writtenEntries entries := by
  match entries with
  | [] => rfl
  | (key, value) :: entries =>
    rw [piecesEntries, writtenEntries, List.map_cons, List.map_cons, flatten_pieces key,
      flatten_pieces value, flatten_piecesEntries entries]

end

/-- The text of a value. -/
def render (value : Value) : String := String.ofList value.written

/-- The text of several values, each on a line of its own. -/
def lines (values : List Value) : List Char :=
  values.flatMap fun value => value.written ++ ['\n']

end Value

end Edn
