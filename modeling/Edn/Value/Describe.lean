import Edn.Value.Basic

/-!
A description of a value that shows every kind by name, such as `List<[Int<1>, Keyword<a>]>`.
-/

namespace Edn

/-- The name of the kind. -/
def AtomKind.name : AtomKind → String
  | integer => "Int"
  | float => "Float"
  | symbol => "Symbol"
  | keyword => "Keyword"
  | string => "String"
  | character => "Char"

/-- The name of the kind. -/
def SequenceKind.name : SequenceKind → String
  | list => "List"
  | set => "Set"
  | vector => "Vector"

/-- The name of the kind. -/
def WrapperKind.name : WrapperKind → String
  | deref => "Deref"
  | quasiquote => "Quasiquote"
  | unquote => "Unquote"
  | unquoteSplice => "UnquoteSplice"
  | metadata => "Meta"
  | varQuote => "Varquote"
  | quote => "Quote"

/-- A name with its content between angle brackets. -/
def angled (name : String) (content : List Char) : List Char :=
  name.toList ++ '<' :: content ++ ['>']

/-- Texts with a comma and a space between neighbours. -/
def listed : List (List Char) → List Char
  | [] => []
  | [text] => text
  | text :: texts => text ++ ',' :: ' ' :: listed texts

namespace Value

mutual

/-- The characters of a value's description. -/
def described : Value → List Char
  | endOfInput => "End".toList
  | error message => angled "Error" message.toList
  | atom kind text => angled kind.name text.toList
  | sequence kind items => angled kind.name ('[' :: listed (describedItems items) ++ [']'])
  | dictionary entries => angled "Dictionary" ('[' :: listed (describedEntries entries) ++ [']'])
  | tagged tag content => angled "Tagged" (angled "Symbol" tag.toList ++ ',' :: described content)
  | wrapped kind content => angled kind.name (described content)

/-- The descriptions of several values. -/
def describedItems : List Value → List (List Char)
  | [] => []
  | item :: items => described item :: describedItems items

/-- The descriptions of several entries. -/
def describedEntries : List (Value × Value) → List (List Char)
  | [] => []
  | (key, value) :: entries =>
    angled "Entry" (described key ++ ',' :: described value) :: describedEntries entries

end

/-- The description of a value. -/
def describe (value : Value) : String := String.ofList value.described

end Value

end Edn
