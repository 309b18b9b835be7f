/-!
The numbers that number atoms stand for: integers of any size, and binary64 floating-point numbers.
-/

namespace Edn

/-- A number. -/
inductive Number
  | integer (value : Int)
  | float (value : Float)

namespace Number

/-- Whether two numbers are equal. No integer equals a floating-point number, and what is not a
number equals nothing. -/
def equals : Number → Number → Bool
  | integer a, integer b => a == b
  | float a, float b => a == b
  | _, _ => false

end Number

end Edn
