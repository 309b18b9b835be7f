import Edn.Session.Basic

/-!
Whole inputs. What is read is either the values of the input, all of them, or one error.
-/

namespace Edn.Document

/-- Reads a stream to its end. -/
def ofStream (settings : Settings) (origin : Origin) (chars : CharStream) : List Value :=
  let session := Session.ofStream settings settings origin chars
  (session.readAll session.limit).1

/-- Reads bytes as they arrive. -/
def ofDeliveries (settings : Settings) (deliveries : List Delivery) : List Value :=
  ofStream settings Session.unnamed (.ofDeliveries deliveries)

/-- Reads bytes that arrive in one piece. -/
def ofBytes (settings : Settings) (data : List UInt8) : List Value :=
  ofDeliveries settings [.bytes data]

/-- Reads a text. -/
def ofText (settings : Settings) (text : List Char) : List Value :=
  ofStream settings Session.unnamed (.ofText text)

/-- The error that stands for a file that cannot be opened. -/
def unopened (error : IoError) : Value :=
  if error.kind = .notFound then .error "File does not exist"
  else .error ("could not open file: " ++ error.message)

/-- Reads a file, given what came of opening it. -/
def ofOpened (settings : Settings) (path : String) : Except IoError (List Delivery) → List Value
  | .error error => [unopened error]
  | .ok deliveries => ofStream settings (.file path) (.ofDeliveries deliveries)

end Edn.Document
