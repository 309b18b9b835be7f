/-!
# The values that text stands for

A value is a tree. Atoms keep their text as it was written, without the sign that selects their
kind: a number is not converted and an escape in a string is not resolved. Two of the constructors
are no data: `Value.endOfInput` and `Value.error` report how reading went on.
-/

namespace Edn

/-- The kinds of atoms. -/
inductive AtomKind
  | integer
  | float
  | symbol
  | keyword
  | string
  | character
  deriving Repr, DecidableEq

/-- The collections whose items stand one after another. -/
inductive SequenceKind
  | list
  | set
  | vector
  deriving Repr, DecidableEq

/-- The reader macros that take exactly one form. -/
inductive WrapperKind
  | deref
  | quasiquote
  | unquote
  | unquoteSplice
  | metadata
  | varQuote
  | quote
  deriving Repr, DecidableEq

/-- What opens the collection. -/
def SequenceKind.opening : SequenceKind → String
  | list => "("
  | set => "#\x7b"
  | vector => "["

/-- What closes the collection. -/
def SequenceKind.closing : SequenceKind → Char
  | list => ')'
  | set => '}'
  | vector => ']'

/-- What stands before the form. -/
def WrapperKind.sigil : WrapperKind → String
  | deref => "@"
  | quasiquote => "\x60"
  | unquote => "~"
  | unquoteSplice => "~@"
  | metadata => "^"
  | varQuote => "#'"
  | quote => "'"

/-- A value, or one of the two reports. -/
inductive Value
  /-- Nothing is left to read. -/
  | endOfInput
  /-- Reading failed. -/
  | error (message : String)
  /-- A number, symbol, keyword, string or character by its text. -/
  | atom (kind : AtomKind) (text : String)
  /-- A list, set or vector with its items in the order written. -/
  | sequence (kind : SequenceKind) (items : List Value)
  /-- A map with its entries in the order written. -/
  | dictionary (entries : List (Value × Value))
  /-- A form with the symbol that tags it. -/
  | tagged (tag : String) (content : Value)
  /-- A form under a reader macro. -/
  | wrapped (kind : WrapperKind) (content : Value)
  deriving Repr, Inhabited

namespace Value

/-- Whether the value is a report and no data. -/
def isSentinel : Value → Bool
  | endOfInput | error _ => true
  | _ => false

/-- The message of an error. -/
def errorMessage? : Value → Option String
  | error message => some message
  | _ => none

/-- The text of an atom. -/
def text? : Value → Option String
  | atom _ text => some text
  | _ => none

/-! ## Equality -/

mutual

/-- Whether two values are the same tree. -/
def same : Value → Value → Bool
  | endOfInput, endOfInput => true
  | error a, error b => a == b
  | atom k a, atom l b => k == l && a == b
  | sequence k a, sequence l b => k == l && sameItems a b
  | dictionary a, dictionary b => sameEntries a b
  | tagged s a, tagged t b => s == t && same a b
  | wrapped k a, wrapped l b => k == l && same a b
  | _, _ => false

/-- Whether two lists hold the same values in the same order. -/
def sameItems : List Value → List Value → Bool
  | [], [] => true
  | a :: as, b :: bs => same a b && sameItems as bs
  | _, _ => false

/-- Whether two lists hold the same entries in the same order. -/
def sameEntries : List (Value × Value) → List (Value × Value) → Bool
  | [], [] => true
  | (k, v) :: as, (l, w) :: bs => same k l && same v w && sameEntries as bs
  | _, _ => false

end

mutual

theorem same_iff : ∀ a b : Value, same a b = true ↔ a = b
  | endOfInput, b => by cases b <;> simp [same]
  | error a, b => by cases b <;> simp [same]
  | atom k a, b => by cases b <;> simp [same]
  | sequence k a, b => by cases b <;> simp [same, sameItems_iff a]
  | dictionary a, b => by cases b <;> simp [same, sameEntries_iff a]
  | tagged s a, b => by cases b <;> simp [same, same_iff a]
  | wrapped k a, b => by cases b <;> simp [same, same_iff a]

theorem sameItems_iff : ∀ a b : List Value, sameItems a b = true ↔ a = b
  | [], b => by cases b <;> simp [sameItems]
  | a :: as, b => by cases b <;> simp [sameItems, same_iff a, sameItems_iff as]

theorem sameEntries_iff : ∀ a b : List (Value × Value), sameEntries a b = true ↔ a = b
  | [], b => by cases b <;> simp [sameEntries]
  | (k, v) :: as, b => by
    cases b <;> simp [sameEntries, same_iff k, same_iff v, sameEntries_iff as, Prod.ext_iff]

end

instance : DecidableEq Value :=
  fun a b => decidable_of_iff (same a b = true) (same_iff a b)

end Value

end Edn
