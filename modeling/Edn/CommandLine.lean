import Edn.Document
import Edn.Value.Describe
import Edn.Value.Printer
import Edn.Writer

/-!
# The command that reads a file and counts, shows or describes its forms

`Options.parse` takes the arguments apart: short flags may be put together, `--` ends the flags, and
there is exactly one path. `Options.run` is everything else, given what came of opening the path. A
file is either read as a whole before anything is shown, or shown form by form as it is read. In the
second case the forms are counted in 32 bits, and what becomes of a counter that is full depends on
how the command was built (`Overflow`).
-/

namespace Edn

/-- What the command is asked to do. -/
structure Options where
  /-- Read the whole file before anything is shown. -/
  all : Bool
  /-- Show the forms. -/
  print : Bool
  /-- Show descriptions in place of texts. -/
  describe : Bool
  /-- Read plain data only. -/
  edn : Bool
  path : String
  deriving Repr, DecidableEq

/-- What the arguments amount to. -/
inductive Invocation
  | run (options : Options)
  /-- A question about the command itself. -/
  | about
  /-- Arguments that the command does not take. -/
  | misuse
  deriving Repr, DecidableEq

/-- A flag. -/
inductive Flag
  | all
  | print
  | describe
  | edn
  | about
  deriving Repr, DecidableEq

/-- The flag of a letter after one hyphen. -/
def Flag.ofLetter? : Char → Option Flag
  | 'a' => some all
  | 'd' => some describe
  | 'h' | 'V' => some about
  | _ => none

/-- The flag of a word after two hyphens. -/
def Flag.ofWord? (word : String) : Option Flag :=
  if word = "all" then some all
  else if word = "print" then some print
  else if word = "describe" then some describe
  else if word = "edn" then some edn
  else if word = "help" ∨ word = "version" then some about
  else none

namespace Options

/-- The arguments taken so far, with the path if it has come. -/
structure Gathered where
  all : Bool
  print : Bool
  describe : Bool
  edn : Bool
  path : Option String

/-- No arguments. -/
def Gathered.empty : Gathered := ⟨false, false, false, false, none⟩

/-- The options, if there is a path. -/
def Gathered.finish (taken : Gathered) : Invocation :=
  match taken.path with
  | some path => .run ⟨taken.all, taken.print, taken.describe, taken.edn, path⟩
  | none => .misuse

/-- One flag, unless it makes an end of the arguments. -/
def Gathered.flag (taken : Gathered) : Flag → Except Invocation Gathered
  | .all => .ok { taken with all := true }
  | .print => .ok { taken with print := true }
  | .describe => .ok { taken with describe := true }
  | .edn => .ok { taken with edn := true }
  | .about => .error .about

/-- One path: there is only one, and it is not empty. -/
def Gathered.operand (taken : Gathered) (path : String) : Except Invocation Gathered :=
  if taken.path.isSome ∨ path.isEmpty then .error .misuse
  else .ok { taken with path := some path }

/-- Flags put together after one hyphen. -/
def Gathered.letters (taken : Gathered) : List Char → Except Invocation Gathered
  | [] => .ok taken
  | c :: letters =>
    match Flag.ofLetter? c with
    | some flag =>
      match taken.flag flag with
      | .ok taken => taken.letters letters
      | .error invocation => .error invocation
    | none => .error .misuse

/-- One argument, while flags may come. -/
def Gathered.argument (taken : Gathered) (argument : String) : Except Invocation Gathered :=
  match argument.toList with
  | '-' :: '-' :: word =>
    match Flag.ofWord? (String.ofList word) with
    | some flag => taken.flag flag
    | none => .error .misuse
  | '-' :: c :: letters => taken.letters (c :: letters)
  | _ => taken.operand argument

/-- Arguments, before (`flags`) or after the one that ends the flags. -/
def parseFrom (taken : Gathered) (flags : Bool) : List String → Invocation
  | [] => taken.finish
  | argument :: arguments =>
    if flags ∧ argument = "--" then parseFrom taken false arguments
    else
      match if flags then taken.argument argument else taken.operand argument with
      | .ok taken => parseFrom taken flags arguments
      | .error invocation => invocation

/-- What the arguments amount to. -/
def parse (arguments : List String) : Invocation :=
  parseFrom .empty true arguments

end Options

/-- What becomes of a counter that stands at its greatest number when one more is counted. -/
inductive Overflow
  /-- The run is aborted. -/
  | aborts
  /-- The counter goes on at its least number. -/
  | wraps
  deriving Repr, DecidableEq

/-- One more is counted, unless the run is aborted. -/
def Overflow.succ? (overflow : Overflow) (count : Int32) : Option Int32 :=
  if overflow = .aborts ∧ count = Int32.maxValue then none else some (count + 1)

/-- What a run of the command leaves behind. -/
inductive Report
  /-- It has ended by itself, with an exit code. -/
  | exited (code : Nat) (out err : String)
  /-- It was aborted, and has no exit code. -/
  | aborted (out : String)
  deriving Repr, DecidableEq

namespace Report

/-- What has been shown. -/
def out : Report → String
  | exited _ out _ => out
  | aborted out => out

end Report

namespace Options

/-- The settings to read with. -/
def settings (options : Options) : Settings :=
  if options.edn then .edn else .clojure

/-- One form on a line of its own. -/
def line (options : Options) (value : Value) : String :=
  if options.describe then value.describe ++ "\n" else value.render ++ "\n"

/-- The forms that are to be shown. -/
def shown (options : Options) (values : List Value) : String :=
  if options.print then String.join (values.map options.line) else ""

/-- The last line of a run that goes well. -/
def countLine {α : Type} [ToString α] (count : α) : String :=
  ";; count_toplevel = " ++ toString count ++ "\n"

/-- A run that fails after showing something. -/
def failure (out message : String) : Report := .exited 1 out ("Error: " ++ message ++ "\n")

/-- Shows the forms of a whole file: descriptions line by line, texts by way of a sink. What came of
it, and what is seen then. -/
def showWhole (options : Options) (values : List Value) : Except IoError Unit × String :=
  if options.print then
    if options.describe then (.ok (), String.join (values.map fun value => value.describe ++ "\n"))
    else
      let (outcome, sink) := Sink.unlimited.writeValues values
      (outcome, (Encoding.utf8.decode? sink.taken).getD "")
  else (.ok (), "")

/-- Shows the forms of a whole file, and then their number. -/
def showCounted (options : Options) (values : List Value) : Report :=
  match options.showWhole values with
  | (.error error, out) => failure out error.message
  | (.ok (), out) => .exited 0 (out ++ countLine values.length) ""

/-- Reads the whole file, then shows its forms. -/
def runWhole (options : Options) (opened : Except IoError (List Delivery)) : Report :=
  match Document.ofOpened options.settings options.path opened with
  | .error message :: _ =>
    failure "" (String.ofList (quoted options.path.toList) ++ ": " ++ message)
  | values => options.showCounted values

/-- Shows the forms of a session as they are read, after those shown before. Each is counted before
it is shown. -/
def stream (overflow : Overflow) (options : Options) : (limit : Nat) → (shown : String) →
    (count : Int32) → Session TextScan → Report
  | 0, shown, count, _ => .exited 0 (shown ++ countLine count) ""
  | limit + 1, shown, count, session =>
    match session.next with
    | (none, _) => .exited 0 (shown ++ countLine count) ""
    | (some (.error message), session) =>
      failure shown (session.lastDiagnostic.getD message)
    | (some value, session) =>
      match overflow.succ? count with
      | none => .aborted shown
      | some count => stream overflow options limit (shown ++ options.shown [value]) count session

/-- Shows the forms of the file as they are read. -/
def runStream (overflow : Overflow) (options : Options)
    (opened : Except IoError (List Delivery)) : Report :=
  match opened with
  | .error error => failure "" error.message
  | .ok deliveries =>
    let session := Session.ofStream options.settings options.settings (.file options.path)
      (.ofDeliveries deliveries)
    stream overflow options session.limit "" 0 session

/-- Runs the command, given what came of opening the path. -/
def run (overflow : Overflow) (options : Options) (opened : Except IoError (List Delivery)) :
    Report :=
  if options.all then options.runWhole opened else options.runStream overflow opened

end Options

end Edn
