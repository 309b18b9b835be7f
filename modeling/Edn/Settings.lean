/-!
What a reader accepts: which forms beyond plain data, whether a comma separates, and how deep forms
may nest.
-/

namespace Edn

/-- The settings of a reader. -/
structure Settings where
  /-- Whether the forms written with `'`, `` ` ``, `~`, `~@`, `@`, `^` and `#'` are read. -/
  readerMacros : Bool
  /-- Whether a name after `#` tags the form that follows it. -/
  taggedLiterals : Bool
  /-- Whether `#_` drops the form that follows it. -/
  discard : Bool
  /-- Whether a comma is white space. -/
  commaIsBlank : Bool
  /-- How many collections, tags, reader macros and discards may be open at one point. -/
  maxDepth : Nat
  deriving Repr, DecidableEq

namespace Settings

/-- Code as data: every form is read. -/
def clojure : Settings where
  readerMacros := true
  taggedLiterals := true
  discard := true
  commaIsBlank := true
  maxDepth := 200

/-- Plain data: no reader macros. -/
def edn : Settings := { clojure with readerMacros := false }

instance : Inhabited Settings := ⟨clojure⟩

end Settings

end Edn
