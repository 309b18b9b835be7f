/-!
Unsigned decimals, and the binary64 number nearest to one.
-/

namespace Edn

/-- The decimal `digits * 10 ^ exponent`. -/
structure Decimal where
  digits : Nat
  exponent : Int
  deriving Repr, DecidableEq

namespace Decimal

/-- The digits as characters, the most significant first. -/
def figures (decimal : Decimal) : List Char := Nat.toDigits 10 decimal.digits

/-- The power of ten that the decimal point follows, counted from the first digit: the decimal is
less than `10 ^ magnitude`, and not less than a tenth of that unless it is zero. -/
def magnitude (decimal : Decimal) : Int := decimal.figures.length + decimal.exponent

/-- The same decimal without zeros at the end of its digits. -/
def trimmed (decimal : Decimal) : Decimal :=
  let zeros := decimal.figures.reverse.takeWhile (· = '0') |>.length
  if decimal.digits = 0 then ⟨0, 0⟩
  else ⟨decimal.digits / Nat.pow 10 zeros, decimal.exponent + zeros⟩

/-- Positive infinity. -/
def infinity : Float := 1.0 / 0.0

/-- The number nearest to the decimal. What lies far beyond the largest and the smallest number is
settled by its magnitude alone, so no power of ten grows with the exponent. -/
def toFloat (decimal : Decimal) : Float :=
  if decimal.digits = 0 then 0.0
  else if 400 < decimal.magnitude then infinity
  else if decimal.magnitude < -400 then 0.0
  else if decimal.exponent < 0 then
    Float.ofScientific decimal.digits true (-decimal.exponent).toNat
  else Float.ofScientific decimal.digits false decimal.exponent.toNat

end Decimal

end Edn
