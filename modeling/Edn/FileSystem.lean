import Edn.Document
import Edn.Text.Encoding
import Edn.Writer

/-!
# Reading and writing files

A file system is a tree of directories and files, each known by the names that lead to it from the
root. Paths are followed name by name: every name but the last has to lead to a directory. `open?`
tells what comes of opening a path, `create?` makes an empty file, and on these stand reading and
writing of whole files. `parseStaged` reads a text by way of a file that a `Stager` makes for it and
removes again, whatever comes of it.
-/

namespace Edn

/-- What stands at a place. -/
inductive Entry
  | file (data : List UInt8)
  | directory
  deriving Repr, DecidableEq

/-- The names that lead from the root to a place. -/
abbrev Place := List String

/-- Failures that are bound to happen. -/
structure Refusals where
  creating : Option IoError
  writing : Option IoError
  opening : Option IoError
  deriving Repr, DecidableEq

/-- Directories and files. -/
structure FileSystem where
  /-- What stands where. The root is a directory and is not listed. -/
  entries : List (Place × Entry)
  /-- Where paths that begin with no slash start. -/
  working : Place
  /-- The path of the directory for files that are soon removed again. -/
  temporary : String
  refusals : Refusals
  deriving Repr, DecidableEq

namespace FileSystem

/-- Two empty directories, one to work in and one for temporary files. -/
def fresh : FileSystem where
  entries := [(["work"], .directory), (["tmp"], .directory)]
  working := ["work"]
  temporary := "/tmp"
  refusals := ⟨none, none, none⟩

/-! ## Places -/

/-- What stands at a place. -/
def entry? (system : FileSystem) (place : Place) : Option Entry :=
  if place = [] then some .directory else system.entries.lookup place

/-- Puts an entry at a place, over what stood there. -/
def put (system : FileSystem) (place : Place) (entry : Entry) : FileSystem :=
  if system.entries.any (·.1 == place) then
    { system with
      entries := system.entries.map fun old => if old.1 == place then (place, entry) else old }
  else { system with entries := system.entries ++ [(place, entry)] }

/-- Takes away what stands at a place. -/
def remove (system : FileSystem) (place : Place) : FileSystem :=
  { system with entries := system.entries.filter (·.1 != place) }

/-- The names in a directory, in order. -/
def names (system : FileSystem) (directory : Place) : List String :=
  let inside := system.entries.filterMap fun (place, _) =>
    match place.getLast? with
    | some name => if place.dropLast = directory then some name else none
    | none => none
  inside.mergeSort fun a b => decide (a ≤ b)

/-! ## Paths -/

/-- The most bytes of a name. -/
def maxName : Nat := 255

/-- The most bytes of a path. -/
def maxPath : Nat := 4095

/-- Follows names from a place. Where they lead need not exist. -/
def follow (system : FileSystem) (place : Place) : List String → Except IoError Place
  | [] => .ok place
  | name :: names =>
    match system.entry? place with
    | none => .error .noSuchFile
    | some (.file _) => .error .notADirectory
    | some .directory =>
      if maxName < name.utf8ByteSize then .error .nameTooLong
      else if name = "." then follow system place names
      else if name = ".." then follow system place.dropLast names
      else follow system (place ++ [name]) names

/-- The names of a path. -/
def pathNames (path : String) : List String :=
  (path.toList.splitOnP (· = '/')).map String.ofList |>.filter (· ≠ "")

/-- Whether a path ends in a slash, so that it can only be a directory's. -/
def endsInSlash (path : String) : Bool := path.toList.getLast? = some '/'

/-- Where a path leads. -/
def locate (system : FileSystem) (path : String) : Except IoError Place :=
  if path.toList.contains '\x00' then .error .nulInPath
  else if path.isEmpty then .error .noSuchFile
  else if maxPath < path.utf8ByteSize then .error .nameTooLong
  else
    let start := if path.toList.head? = some '/' then [] else system.working
    system.follow start (pathNames path)

/-! ## Opening and creating -/

/-- What opening a place for reading brings: the content of a file, or a directory, which opens but
cannot be read. -/
def openPlace (system : FileSystem) (place : Place) : Except IoError (List Delivery) :=
  match system.refusals.opening, system.entry? place with
  | some error, _ => .error error
  | none, none => .error .noSuchFile
  | none, some (.file data) => .ok [.bytes data]
  | none, some .directory => .ok [.failure .isADirectory]

/-- What opening a path for reading brings. -/
def open? (system : FileSystem) (path : String) : Except IoError (List Delivery) := do
  let place ← system.locate path
  if endsInSlash path then
    match system.entry? place with
    | some (.file _) => .error .notADirectory
    | _ => system.openPlace place
  else system.openPlace place

/-- Makes an empty file at a place, or empties the file that stands there. -/
def createPlace (system : FileSystem) (place : Place) : Except IoError FileSystem :=
  match system.refusals.creating, system.entry? place with
  | some error, _ => .error error
  | none, some .directory => .error .isADirectory
  | none, _ => .ok (system.put place (.file []))

/-- Makes an empty file at a path. -/
def create? (system : FileSystem) (path : String) : Except IoError (Place × FileSystem) := do
  let place ← system.locate path
  if endsInSlash path then .error .isADirectory
  else return (place, ← system.createPlace place)

/-- Writes a file that has been made. -/
def fill (system : FileSystem) (place : Place) (data : List UInt8) :
    Except IoError FileSystem :=
  match system.refusals.writing with
  | some error => .error error
  | none => .ok (system.put place (.file data))

/-- Makes a directory. -/
def makeDirectory (system : FileSystem) (path : String) : FileSystem :=
  match system.locate path with
  | .ok place =>
    if (system.entry? place).isNone then system.put place .directory else system
  | .error _ => system

/-- The content of a file. -/
def content? (system : FileSystem) (path : String) : Option (List UInt8) :=
  match system.open? path with
  | .ok [.bytes data] => some data
  | _ => none

/-- The names in a directory. -/
def list? (system : FileSystem) (path : String) : Option (List String) :=
  match system.locate path with
  | .ok place => if system.entry? place = some .directory then some (system.names place) else none
  | .error _ => none

/-! ## Whole files -/

/-- Writes a file of bytes, if that can be done. -/
def writeBytes (system : FileSystem) (path : String) (data : List UInt8) : FileSystem :=
  match system.create? path with
  | .ok (place, made) => (made.fill place data).toOption.getD made
  | .error _ => system

/-- Reads the values of a file. -/
def parseFile (system : FileSystem) (settings : Settings) (path : String) : List Value :=
  Document.ofOpened settings path (system.open? path)

/-- Writes values to a file, one a line. -/
def writeFile (system : FileSystem) (path : String) (values : List Value) :
    Except IoError Unit × FileSystem :=
  match system.create? path with
  | .error error => (.error error, system)
  | .ok (place, made) =>
    match Sink.unlimited.writeValues values with
    | (.error error, _) => (.error error, made)
    | (.ok (), sink) =>
      match made.fill place sink.taken with
      | .error error => (.error error, made)
      | .ok filled => (.ok (), filled)

/-- Starts a session over a file. -/
def session (system : FileSystem) (settings : Settings) (path : String) :
    Except IoError (Session TextScan) := do
  let deliveries ← system.open? path
  return .ofStream settings settings (.file path) (.ofDeliveries deliveries)

/-! ## Staging -/

/-- Removes the file at a path. -/
def removeFile (system : FileSystem) (path : String) : Except IoError FileSystem := do
  let place ← system.locate path
  match system.entry? place with
  | none => .error .noSuchFile
  | some .directory => .error .isADirectory
  | some (.file _) => if endsInSlash path then .error .notADirectory else return system.remove place

end FileSystem

/-- A new file that is open for writing. -/
structure StagedFile where
  path : String
  place : Place
  deriving Repr, DecidableEq

/-- Something that makes new files for a short time. The names are its own choice. -/
structure Stager where
  /-- Makes an empty file in the directory at a path; its name is to begin and end as given. -/
  make (system : FileSystem) (directory start finish : String) :
    Except IoError (StagedFile × FileSystem)
  /-- Gives up a file, and with it the place where it stands. -/
  drop (system : FileSystem) (file : StagedFile) : FileSystem
  /-- Gives up a file, and says what came of removing it. -/
  close (system : FileSystem) (file : StagedFile) : Except IoError Unit × FileSystem

namespace FileSystem

/-- The error that stands for a text that could not be staged. -/
def unstaged (error : IoError) : Value :=
  .error ("could not stage input: " ++ error.message)

/-- Reads a text by way of a new file in the directory at a path. -/
def parseStaged (stager : Stager) (system : FileSystem) (settings : Settings)
    (directory text : String) : List Value × FileSystem :=
  match stager.make system directory "edntree-" ".edn" with
  | .error error => ([unstaged error], system)
  | .ok (file, made) =>
    match made.fill file.place (Encoding.utf8.encode text) with
    | .error error => ([unstaged error], stager.drop made file)
    | .ok filled => (filled.parseFile settings file.path, (stager.close filled file).2)

/-! ## A stager that counts -/

/-- The path of a name in the directory at a path. -/
def join (directory name : String) : String :=
  if directory.isEmpty ∨ endsInSlash directory then directory ++ name
  else directory ++ "/" ++ name

/-- Makes an empty file at a path where nothing stands. -/
def createNew? (system : FileSystem) (path : String) : Except IoError (Place × FileSystem) := do
  let place ← system.locate path
  if (system.entry? place).isSome then .error .fileExists else system.create? path

/-- Makes a file at the first path of a sequence where nothing stands. -/
def stageFirst (system : FileSystem) (path : Nat → String) :
    (tries n : Nat) → Except IoError (StagedFile × FileSystem)
  | 0, _ => .error ⟨.alreadyExists, "too many temporary files exist"⟩
  | tries + 1, n =>
    match system.createNew? (path n) with
    | .ok (place, made) => .ok (⟨path n, place⟩, made)
    | .error error =>
      if error.kind = .alreadyExists then stageFirst system path tries (n + 1) else .error error

end FileSystem

/-- Six digits, which stand in the names where other stagers put letters and digits at random. -/
def Stager.sixDigits (n : Nat) : String := String.ofList ((Nat.toDigits 10 n).leftpad 6 '0')

/-- The stager that numbers its files. -/
def Stager.numbering : Stager where
  make system directory start finish :=
    system.stageFirst (fun n => FileSystem.join directory (start ++ sixDigits n ++ finish)) 65536 0
  drop system file := (system.removeFile file.path).toOption.getD system
  close system file :=
    match system.removeFile file.path with
    | .error error => (.error error, system)
    | .ok removed => (.ok (), removed)

end Edn
