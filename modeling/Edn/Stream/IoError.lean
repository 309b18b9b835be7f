/-!
Failures of reading, writing and opening. A failure has a kind, which callers may test, and a text,
which is only shown.
-/

namespace Edn

/-- What kind of failure it is. -/
inductive IoErrorKind
  | other
  | interrupted
  | unexpectedEof
  | wouldBlock
  | writeZero
  | notFound
  | alreadyExists
  | isADirectory
  | notADirectory
  | invalidFilename
  | invalidInput
  deriving Repr, DecidableEq

/-- The text of a failure that brings none of its own. -/
def IoErrorKind.text : IoErrorKind → String
  | other => "other error"
  | interrupted => "operation interrupted"
  | unexpectedEof => "unexpected end of file"
  | wouldBlock => "operation would block"
  | writeZero => "write zero"
  | notFound => "entity not found"
  | alreadyExists => "entity already exists"
  | isADirectory => "is a directory"
  | notADirectory => "not a directory"
  | invalidFilename => "invalid filename"
  | invalidInput => "invalid input parameter"

/-- A failure of input or output. -/
structure IoError where
  kind : IoErrorKind
  message : String
  deriving Repr, DecidableEq

namespace IoError

/-- The failure that has its kind's own text. -/
def ofKind (kind : IoErrorKind) : IoError := ⟨kind, kind.text⟩

/-- A failure that the operating system reports by number. -/
def ofNumber (kind : IoErrorKind) (text : String) (number : Nat) : IoError :=
  ⟨kind, text ++ " (os error " ++ toString number ++ ")"⟩

/-- A path leads nowhere. -/
def noSuchFile : IoError := ofNumber .notFound "No such file or directory" 2

/-- Something stands where nothing may. -/
def fileExists : IoError := ofNumber .alreadyExists "File exists" 17

/-- A path goes through something that is no directory. -/
def notADirectory : IoError := ofNumber .notADirectory "Not a directory" 20

/-- A directory stands where a file is needed. -/
def isADirectory : IoError := ofNumber .isADirectory "Is a directory" 21

/-- A path, or one of its names, is longer than a file system takes. -/
def nameTooLong : IoError := ofNumber .invalidFilename "File name too long" 36

/-- A path holds the character that ends path names. -/
def nulInPath : IoError := ⟨.invalidInput, "file name contained an unexpected NUL byte"⟩

/-- A writer took nothing of what it was given. -/
def nothingWritten : IoError := ⟨.writeZero, "failed to write whole buffer"⟩

end IoError

end Edn
