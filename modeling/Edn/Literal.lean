import Edn.Settings
import Edn.Text.Blank
import Edn.Value.Basic

/-!
Which characters make up a token, and which tokens are numbers or name characters.
-/

namespace Edn

/-! ## Characters -/

/-- Whether a character separates forms. -/
def Settings.isBlank (settings : Settings) (c : Char) : Bool :=
  Edn.isBlank c || (c = ',' && settings.commaIsBlank)

/-- Whether a character ends a token although it separates nothing. -/
def isDelimiter (c : Char) : Bool :=
  c = '(' || c = ')' || c = '[' || c = ']' || c = '{' || c = '}' || c = '"' || c = ';' || c = '\\'

/-- Whether a character can stand in a token. -/
def Settings.isTokenChar (settings : Settings) (c : Char) : Bool :=
  !settings.isBlank c && !isDelimiter c

/-- Whether a character is a hexadecimal digit. -/
def isHexDigit (c : Char) : Bool :=
  c.isDigit || ('a' ≤ c && c ≤ 'f') || ('A' ≤ c && c ≤ 'F')

/-- Whether a character is an octal digit. -/
def isOctalDigit (c : Char) : Bool := '0' ≤ c && c ≤ '7'

/-- Whether a character is a sign. -/
def isSign (c : Char) : Bool := c = '+' || c = '-'

namespace Literal

/-! ## Numbers -/

/-- Whether the text is one or more decimal digits. -/
def isDigits (text : List Char) : Bool := !text.isEmpty && text.all Char.isDigit

/-- The text without one leading sign, if it begins so. -/
def dropSign : List Char → List Char
  | [] => []
  | c :: text => if isSign c then text else c :: text

/-- Whether the text ends with the mark, and the text without it. -/
def splitMark (mark : Char) (text : List Char) : List Char × Bool :=
  if text.getLast? = some mark then (text.dropLast, true) else (text, false)

/-- The text before the first character of a kind, and what follows that character. -/
def splitAt (stop : Char → Bool) : List Char → List Char × Option (List Char)
  | [] => ([], none)
  | c :: text =>
    if stop c then ([], some text)
    else
      let (before, after) := splitAt stop text
      (c :: before, after)

/-- Whether the text is an integer: an optional sign, digits, and perhaps `N`. -/
def isInteger (text : List Char) : Bool :=
  isDigits (splitMark 'N' (dropSign text)).1

/-- Whether the text is a floating-point number: an optional sign, digits, perhaps a point with
digits or none behind it, perhaps an exponent, and perhaps `M`; of these three at least one. -/
def isFloat (text : List Char) : Bool :=
  let (body, marked) := splitMark 'M' (dropSign text)
  let (mantissa, exponent) := splitAt (fun c => c = 'e' || c = 'E') body
  let (whole, fraction) := splitAt (· = '.') mantissa
  isDigits whole && (fraction.all fun digits => digits.all Char.isDigit) &&
    (exponent.all fun digits => isDigits (dropSign digits)) &&
    (fraction.isSome || exponent.isSome || marked)

/-- Whether a token that begins so has to be a number. -/
def looksNumeric : List Char → Bool
  | [] => false
  | c :: text => c.isDigit || (isSign c && text.head?.any Char.isDigit)

/-- The kind of a token that is no keyword, unless it begins like a number and is none. -/
def tokenKind? (text : List Char) : Option AtomKind :=
  if !looksNumeric text then some .symbol
  else if isInteger text then some .integer
  else if isFloat text then some .float
  else none

/-! ## Characters by name -/

/-- The characters that have a name. -/
def characterNames : List String :=
  ["newline", "space", "tab", "return", "backspace", "formfeed"]

/-- The value of octal digits. -/
def octalValue (digits : List Char) : Nat :=
  digits.foldl (fun value c => 8 * value + (c.toNat - '0'.toNat)) 0

/-- Whether the text stands for a character after a backslash: the character itself, a name, `u`
with four hexadecimal digits, or `o` with up to three octal digits and no more than 377. -/
def isCharacter (text : List Char) : Bool :=
  text.length = 1 || characterNames.contains (String.ofList text) ||
    match text with
    | 'u' :: digits => digits.length = 4 && digits.all isHexDigit
    | 'o' :: digits =>
      !digits.isEmpty && digits.length ≤ 3 && digits.all isOctalDigit && octalValue digits ≤ 255
    | _ => false

/-- The characters that stand for another one after a backslash in a string. -/
def isSimpleEscape (c : Char) : Bool :=
  c = 't' || c = 'r' || c = 'n' || c = '\\' || c = '"' || c = 'b' || c = 'f'

end Literal

end Edn
