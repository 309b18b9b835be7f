import Edn.Reader

/-!
# Sources of nodes

A session does not care who recognises forms: a source hands out one node per call, and takes every
node back once it has been turned into a value. `NodeSource.ofText` is the reader of this library;
`NodeSource.ofList` hands out nodes that are given, and keeps those that it has got back.
-/

namespace Edn

/-- Something that hands out nodes, with states of type `σ`. -/
structure NodeSource (σ : Type) where
  /-- How the text of the nodes is encoded. -/
  encoding : σ → Encoding
  /-- The next node. It may read characters of the stream. -/
  readNode : σ → CharStream → Node × σ × CharStream
  /-- Takes a node back. -/
  release : Node → σ → σ

/-! ## Text -/

/-- The state of the reader of text. -/
structure TextScan where
  settings : Settings
  scan : ScanState
  deriving Repr, DecidableEq

namespace NodeSource

/-- The reader of text. -/
def ofText : NodeSource TextScan where
  encoding _ := .utf8
  readNode source chars :=
    let (node, cursor) := Reader.readNode source.settings ⟨chars, source.scan⟩
    (node, { source with scan := cursor.state }, cursor.chars)
  release _ source := source

end NodeSource

/-! ## Given nodes -/

/-- The state of a source of given nodes. -/
structure NodeTape where
  /-- The nodes to come; after them only the end. -/
  nodes : List Node
  /-- The nodes that have been given back, the last one first. -/
  released : List Node
  deriving Repr

/-- Nodes of which none has been handed out. -/
def NodeTape.ofNodes (nodes : List Node) : NodeTape := ⟨nodes, []⟩

/-- A source of given nodes. -/
def NodeSource.ofList (encoding : Encoding) : NodeSource NodeTape where
  encoding _ := encoding
  readNode tape chars :=
    match tape.nodes with
    | [] => (.endOfInput, tape, chars)
    | node :: nodes => (node, { tape with nodes }, chars)
  release node tape := { tape with released := node :: tape.released }

end Edn
