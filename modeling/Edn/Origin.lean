import Edn.Fault
import Edn.Text.Quoted

/-!
Where a text comes from, for the messages about it.
-/

namespace Edn

/-- What is being read. -/
inductive Origin
  /-- The file at a path. -/
  | file (path : String)
  /-- Something without a path, by a name for it. -/
  | named (name : String)
  deriving Repr, DecidableEq

/-- The name in messages: a path is quoted, any other name stands in parentheses. -/
def Origin.render : Origin → String
  | file path => String.ofList (quoted path.toList)
  | named name => "(" ++ name ++ ")"

/-- The word that leads to the name. -/
def Origin.preposition : Origin → String
  | file _ => "in"
  | named _ => "from"

/-- A fault with what is being read. -/
structure Diagnostic where
  fault : Fault
  origin : Origin
  deriving Repr, DecidableEq

/-- The text of the error, what is being read, and the place in it. -/
def Diagnostic.render (diagnostic : Diagnostic) : String :=
  diagnostic.fault.error.message ++ " " ++ diagnostic.origin.preposition ++ " " ++
    diagnostic.origin.render ++ diagnostic.fault.position.render

end Edn
