import Edn.Number.Decimal

/-!
# The shortest decimal that reads back as a given number

The reals that round to a binary64 number form an interval: from halfway to the number below to
halfway to the number above, with its ends exactly when the number's significand is even. On the
grid of decimals with a given count of digits the number has two neighbours, and if any point of
the grid lies in the interval one of them does. `Shortest.decimal` takes the first count for which
one does, and of two the nearer. All of it is exact arithmetic on naturals.
-/

namespace Edn.Shortest

/-- A positive finite number `significand * 2 ^ exponent`. -/
structure Scaled where
  significand : Nat
  exponent : Int
  deriving Repr, DecidableEq

/-- The magnitude of the number with these bits, unless it is infinite or none. -/
def Scaled.ofBits? (bits : UInt64) : Option Scaled :=
  let field : Nat := bits.toNat / Nat.pow 2 52 % Nat.pow 2 11
  let fraction : Nat := bits.toNat % Nat.pow 2 52
  if field = 2047 then none
  else if field = 0 then some ⟨fraction, -1074⟩
  else some ⟨Nat.pow 2 52 + fraction, (field : Int) - 1075⟩

/-- The interval of reals that round to a number, over a common denominator. -/
structure Interval where
  low : Nat
  value : Nat
  high : Nat
  denominator : Nat
  /-- Whether the ends belong to it. -/
  closed : Bool
  deriving Repr, DecidableEq

/-- The interval of a number. Below a power of two the next number is half as far away as above. -/
def Scaled.interval (number : Scaled) : Interval :=
  let up := Nat.pow 2 number.exponent.toNat
  let down := Nat.pow 2 (-number.exponent).toNat
  let narrow := number.significand = Nat.pow 2 52 ∧ -1074 < number.exponent
  { low := (4 * number.significand - if narrow then 1 else 2) * up
    value := 4 * number.significand * up
    high := (4 * number.significand + 2) * up
    denominator := 4 * down
    closed := number.significand % 2 = 0 }

/-- A natural times a power of ten, as a fraction. -/
def tenfold (digits : Nat) (exponent : Int) : Nat × Nat :=
  (digits * Nat.pow 10 exponent.toNat, Nat.pow 10 (-exponent).toNat)

/-- Whether the decimal lies in the interval. -/
def Interval.holds (interval : Interval) (decimal : Decimal) : Bool :=
  let (numerator, denominator) := tenfold decimal.digits decimal.exponent
  let point := numerator * interval.denominator
  if interval.closed then
    decide (interval.low * denominator ≤ point) && decide (point ≤ interval.high * denominator)
  else
    decide (interval.low * denominator < point) && decide (point < interval.high * denominator)

/-- The least power of ten above the value. -/
def Interval.scale (interval : Interval) : Int :=
  let bits : Int := Int.ofNat interval.value.log2 - Int.ofNat interval.denominator.log2
  let guess := (bits - 1) * 30103 / 100000 - 1
  let above (k : Int) : Bool :=
    let (numerator, denominator) := tenfold 1 k
    decide (interval.value * denominator < numerator * interval.denominator)
  if above guess then guess
  else if above (guess + 1) then guess + 1
  else if above (guess + 2) then guess + 2
  else guess + 3

/-- The nearer of the value's two neighbours on a grid, `below` and the point after it; halfway
between them it is the upper one. -/
def Interval.nearer (interval : Interval) (below : Decimal) : Decimal :=
  let (numerator, denominator) := tenfold (2 * below.digits + 1) below.exponent
  if 2 * interval.value * denominator < numerator * interval.denominator then below
  else { below with digits := below.digits + 1 }

/-- The grid of decimals that are multiples of `10 ^ exponent`: the neighbour of the value that
lies in the interval, the nearer one if both do. -/
def Interval.onGrid? (interval : Interval) (exponent : Int) : Option Decimal :=
  let (numerator, denominator) := tenfold 1 exponent
  let below : Decimal :=
    ⟨interval.value * denominator / (numerator * interval.denominator), exponent⟩
  let after : Decimal := { below with digits := below.digits + 1 }
  match interval.holds below, interval.holds after with
  | true, true => some (interval.nearer below)
  | true, false => some below
  | false, true => some after
  | false, false => none

/-- The decimal with the fewest digits in the interval of a positive number. Seventeen digits are
always enough; should they not be, the nearest decimal of that many is given. -/
def decimal (number : Scaled) : Decimal :=
  let interval := number.interval
  let scale := interval.scale
  let grids := (List.range 17).map fun count => scale - (Int.ofNat count + 1)
  match grids.findSome? interval.onGrid? with
  | some found => found.trimmed
  | none =>
    let (numerator, denominator) := tenfold 1 (scale - 17)
    let below : Decimal :=
      ⟨interval.value * denominator / (numerator * interval.denominator), scale - 17⟩
    (interval.nearer below).trimmed

end Edn.Shortest
