import Edn.Node

/-!
# From nodes to values

A node becomes a value if it is data all through and no deeper than allowed. Otherwise its first
offence, in the order in which the node is walked, decides the error: a compound node counts
against the depth before its children are looked at, children come in order, a key before its
value, and a tag, which must be a symbol, before what it tags. Text that cannot be decoded is no
offence; a placeholder stands for it.
-/

namespace Edn

/-- Why a node is no value. -/
inductive NodeError
  /-- It holds an error. -/
  | malformed
  /-- The input ends inside it. -/
  | nestedEnd
  /-- It holds a form of unknown kind. -/
  | unknownKind
  /-- It holds an atom of unknown kind. -/
  | unknownAtom
  /-- It holds a tag that is no symbol. -/
  | tagNotSymbol
  /-- Its compounds are nested too deep. -/
  | tooDeep
  deriving Repr, DecidableEq

/-- The text of the error. -/
def NodeError.message : NodeError → String
  | malformed => "error encountered while parsing"
  | nestedEnd => "unexpected end of input inside a form"
  | unknownKind => "unknown value kind"
  | unknownAtom => "unknown primitive value"
  | tagNotSymbol => "tag of tagged literal is not a symbol"
  | tooDeep => "nesting too deep"

/-- What stands for text that cannot be decoded. -/
def undecodable : String := "PARSEFAILED"

/-- The text of an atom. -/
def Encoding.textOf (encoding : Encoding) (raw : List UInt8) : String :=
  (encoding.decode? raw).getD undecodable

namespace Value

/-- The text of the symbol that a tag must be. -/
def tagText? : Value → Except NodeError String
  | atom .symbol text => .ok text
  | _ => .error .tagNotSymbol

mutual

/-- The data that a node stands for, with at most `depth` compounds nested. -/
def build (encoding : Encoding) : Node → (depth : Nat) → Except NodeError Value
  | .error _, _ => .error .malformed
  | .endOfInput, _ => .error .nestedEnd
  | .atom kind raw, _ => .ok (atom kind (encoding.textOf raw))
  | .unknownAtom _ _, _ => .error .unknownAtom
  | .unknown _, _ => .error .unknownKind
  | .sequence _ _, 0 => .error .tooDeep
  | .dictionary _, 0 => .error .tooDeep
  | .tagged _ _, 0 => .error .tooDeep
  | .wrapped _ _, 0 => .error .tooDeep
  | .sequence kind items, depth + 1 => do
    return sequence kind (← buildItems encoding items depth)
  | .dictionary entries, depth + 1 => do
    return dictionary (← buildEntries encoding entries depth)
  | .tagged tag content, depth + 1 => do
    let tag ← build encoding tag depth
    let text ← tagText? tag
    return tagged text (← build encoding content depth)
  | .wrapped kind content, depth + 1 => do
    return wrapped kind (← build encoding content depth)

/-- The data of nodes in order. -/
def buildItems (encoding : Encoding) : List Node → (depth : Nat) → Except NodeError (List Value)
  | [], _ => .ok []
  | node :: nodes, depth => do
    let item ← build encoding node depth
    return item :: (← buildItems encoding nodes depth)

/-- The data of entries in order, of each the key first. -/
def buildEntries (encoding : Encoding) :
    List (Node × Node) → (depth : Nat) → Except NodeError (List (Value × Value))
  | [], _ => .ok []
  | (k, v) :: nodes, depth => do
    let key ← build encoding k depth
    let value ← build encoding v depth
    return (key, value) :: (← buildEntries encoding nodes depth)

end

/-- The value of a node that was handed over as a whole: the end stays the end, and a node that is
no data becomes an error. -/
def ofNode (encoding : Encoding) (depth : Nat) : Node → Value
  | .endOfInput => endOfInput
  | node =>
    match build encoding node depth with
    | .ok value => value
    | .error offence => error offence.message

end Value

end Edn
