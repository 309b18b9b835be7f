import Edn.Node

/-!
# Constructs: what can be open at a point of a text, and what becomes of it

A construct is opened by a lexeme and takes the forms that follow. A collection takes forms until it
is closed; the others take exactly one. `Frame.close` makes the node of a collection when a closing
character comes, or says what is wrong with it.
-/

namespace Edn

/-- The collections that are written between two delimiters. -/
inductive Bracket
  | sequence (kind : SequenceKind)
  | map
  deriving Repr, DecidableEq

/-- What opens the collection. -/
def Bracket.opening : Bracket → String
  | sequence kind => kind.opening
  | map => "\x7b"

/-- What closes the collection. -/
def Bracket.closing : Bracket → Char
  | sequence kind => kind.closing
  | map => '}'

/-- Neighbours in pairs, if none is left over. -/
def pairs? {α : Type} : List α → Option (List (α × α))
  | [] => some []
  | [_] => none
  | key :: value :: rest => (pairs? rest).map ((key, value) :: ·)

/-- What can be open. -/
inductive Construct
  /-- A collection. -/
  | collection (bracket : Bracket)
  /-- A reader macro. -/
  | wrapper (kind : WrapperKind)
  /-- A tag. -/
  | tag (text : String)
  /-- A discard. -/
  | discard
  deriving Repr, DecidableEq

/-- A construct that is open, with the forms it has taken. -/
structure Frame where
  construct : Construct
  /-- Where the construct starts. -/
  start : Position
  /-- The forms directly inside, the last one first. -/
  forms : List Node
  deriving Repr

namespace Frame

/-- A construct that has just been opened. -/
def opened (construct : Construct) (start : Position) : Frame := ⟨construct, start, []⟩

/-- The fault of a construct when the text ends. -/
def unfinished (frame : Frame) : Fault :=
  match frame.construct with
  | .collection bracket => ⟨.prematureEnd bracket.closing, frame.start⟩
  | .wrapper kind => ⟨.missingForm kind.sigil, frame.start⟩
  | .tag _ => ⟨.missingForm "#tag", frame.start⟩
  | .discard => ⟨.missingForm "#_", frame.start⟩

/-- What a construct becomes at a closing character: its node, if it is a collection that the
character closes. -/
def close (frame : Frame) (c : Char) (position : Position) : Except Fault Node :=
  match frame.construct with
  | .collection bracket =>
    if c = bracket.closing then
      match bracket with
      | .sequence kind => .ok (.sequence kind frame.forms.reverse)
      | .map =>
        match pairs? frame.forms.reverse with
        | some entries => .ok (.dictionary entries)
        | none => .error ⟨.unevenMap frame.forms.length, frame.start⟩
    else .error ⟨.mismatch bracket.opening frame.start bracket.closing c, position⟩
  | _ => .error frame.unfinished

end Frame

end Edn
