import Edn.Number.Basic
import Edn.Number.Decimal
import Edn.Value.Basic

/-!
Numbers from text. An integer is read exactly, whatever its length; a floating-point number is the
binary64 number nearest to the decimal that is written.
-/

namespace Edn

/-! ## Marks and digits -/

/-- The text without one final `mark`, if it ends so. -/
def dropMark (mark : Char) (text : List Char) : List Char :=
  if text.getLast? = some mark then text.dropLast else text

/-- The text without one leading plus, if it begins so. -/
def dropPlus : List Char → List Char
  | '+' :: text => text
  | text => text

/-- Whether a minus begins the text, and the text without one leading sign. -/
def splitSign : List Char → Bool × List Char
  | '-' :: text => (true, text)
  | '+' :: text => (false, text)
  | text => (false, text)

/-- The number, or its opposite behind a minus. -/
def negateIf {α : Type} [Neg α] (negative : Bool) (number : α) : α :=
  if negative then -number else number

/-- The value of a decimal digit. -/
def digitValue (c : Char) : Nat := c.toNat - '0'.toNat

/-- The natural that the digits stand for. -/
def naturalOf (digits : List Char) : Nat :=
  digits.foldl (fun value c => 10 * value + digitValue c) 0

/-! ## Integers -/

/-- A natural from its digits; underscores may follow the first digit. -/
def readNatural? : List Char → Option Nat
  | [] => none
  | c :: text =>
    if c.isDigit && text.all fun d => d.isDigit || d = '_' then
      some (naturalOf ((c :: text).filter Char.isDigit))
    else none

/-- An integer: `N` may end it and a plus may begin it; what is left is an optional sign and a
natural. -/
def readInteger? (text : List Char) : Option Int :=
  let (negative, digits) := splitSign (dropPlus (dropMark 'N' text))
  (readNatural? digits).map fun n => negateIf negative (Int.ofNat n)

/-! ## Floating-point numbers -/

/-- An exponent: nothing, or `e` with an optional sign and at least one digit. -/
def readExponent? : List Char → Option Int
  | [] => some 0
  | e :: text =>
    if e = 'e' ∨ e = 'E' then
      let (negative, digits) := splitSign text
      if digits ≠ [] ∧ digits.all Char.isDigit then
        some (negateIf negative (Int.ofNat (naturalOf digits)))
      else none
    else none

/-- The digits behind a point at the front, and what is left. -/
def readFraction : List Char → List Char × List Char
  | '.' :: text => text.span Char.isDigit
  | text => ([], text)

/-- An unsigned decimal: digits with at most one point among, before or behind them, then an
exponent. -/
def readDecimal? (text : List Char) : Option Decimal :=
  let (whole, rest) := text.span Char.isDigit
  let (fraction, rest) := readFraction rest
  if whole = [] ∧ fraction = [] then none
  else (readExponent? rest).map fun exponent =>
    ⟨naturalOf (whole ++ fraction), exponent - fraction.length⟩

/-- The number that is not a number. -/
def notANumber : Float := 0.0 / 0.0

/-- A decimal, or the name of an infinity or of no number, in letters of either case. -/
def readMagnitude? (text : List Char) : Option Float :=
  match readDecimal? text with
  | some decimal => some decimal.toFloat
  | none =>
    let name := text.map Char.toLower
    if name = "inf".toList ∨ name = "infinity".toList then some Decimal.infinity
    else if name = "nan".toList then some notANumber
    else none

/-- A floating-point number: `M` may end it and a plus may begin it; what is left is an optional
sign and a magnitude. -/
def readFloat? (text : List Char) : Option Float :=
  let (negative, magnitude) := splitSign (dropPlus (dropMark 'M' text))
  (readMagnitude? magnitude).map (negateIf negative)

/-! ## Atoms -/

/-- The number that an integer or float atom stands for. -/
def Value.number? : Value → Option Number
  | .atom .integer text => (readInteger? text.toList).map .integer
  | .atom .float text => (readFloat? text.toList).map .float
  | _ => none

end Edn
