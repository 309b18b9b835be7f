import Edn.Number.Basic
import Edn.Number.Shortest

/-!
The text of a number. A floating-point number is shown with the fewest digits that read back as it.
-/

namespace Edn

/-- How decimals are laid out. -/
structure DecimalLayout where
  /-- The least power of ten of the first digit that is written without an exponent. -/
  positionalFrom : Int
  /-- The first power of ten that is written with an exponent again. -/
  positionalBelow : Int

/-- Numbers from a ten-thousandth up to ten quadrillions are written without an exponent. -/
def numberLayout : DecimalLayout := ⟨-4, 16⟩

/-- Digits with a point after the first `places` of them; there is a digit on both sides. -/
def positional (figures : List Char) (places : Int) : List Char :=
  if places ≤ 0 then ['0', '.'] ++ List.replicate (-places).toNat '0' ++ figures
  else
    let whole := figures.take places.toNat
    let fraction := figures.drop places.toNat
    whole ++ List.replicate (places.toNat - whole.length) '0' ++ ['.'] ++
      (if fraction = [] then ['0'] else fraction)

/-- Digits with a point after the first, unless it is the only one, and an exponent. -/
def exponential (figures : List Char) (exponent : Int) : List Char :=
  figures.take 1 ++ (if figures.length ≤ 1 then [] else '.' :: figures.drop 1) ++
    'e' :: (toString exponent).toList

/-- A decimal above zero. -/
def DecimalLayout.write (layout : DecimalLayout) (decimal : Decimal) : List Char :=
  let first := decimal.magnitude - 1
  if layout.positionalFrom ≤ first ∧ first < layout.positionalBelow then
    positional decimal.figures decimal.magnitude
  else exponential decimal.figures first

/-- A floating-point number, the sign of a zero included. -/
def floatText (x : Float) : List Char :=
  let bits := x.toBits
  if x.isNaN then "NaN".toList
  else
    let sign := if Nat.pow 2 63 ≤ bits.toNat then ['-'] else []
    sign ++
      match Shortest.Scaled.ofBits? bits with
      | none => "inf".toList
      | some ⟨0, _⟩ => "0.0".toList
      | some number => numberLayout.write (Shortest.decimal number)

/-- The number as text. -/
def Number.render : Number → String
  | .integer value => toString value
  | .float value => String.ofList (floatText value)

end Edn
