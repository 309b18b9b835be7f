import Edn.Fault
import Edn.Text.Encoding
import Edn.Value.Basic

/-!
# Nodes: forms as they are handed over by whatever recognised them

The text of a node's atoms is still encoded, and nothing is promised about a node: a report may
stand inside a form, a tag may be any node, and kinds may occur that no value has.
-/

namespace Edn

/-- A form that has been recognised, or a report. -/
inductive Node
  /-- The text is malformed. -/
  | error (fault : Fault)
  /-- Nothing is left. -/
  | endOfInput
  /-- An atom by its encoded text. -/
  | atom (kind : AtomKind) (raw : List UInt8)
  /-- An atom of a kind known by number only. -/
  | unknownAtom (code : UInt16) (raw : List UInt8)
  | sequence (kind : SequenceKind) (items : List Node)
  | dictionary (entries : List (Node × Node))
  /-- A form under a tag, which should be a symbol. -/
  | tagged (tag content : Node)
  | wrapped (kind : WrapperKind) (content : Node)
  /-- A form of a kind known by number only. -/
  | unknown (code : UInt16)
  deriving Repr, Inhabited

/-- The atom with this text. -/
def Node.ofText (encoding : Encoding) (kind : AtomKind) (text : String) : Node :=
  .atom kind (encoding.encode text)

end Edn
