import Chip8.Decimal.Shortest

/-!
# Numbers of two kinds

A number from a host is an integer of any size or a double.

* `Number.text`: the number as it was given.
* `Number.toFloat`: the double nearest to it.
* `Number.truncate`: the integer that is left when the places behind the point are dropped.
-/

namespace Chip8.Decimal

/-- An integer or a double. -/
inductive Number where
  | whole (n : Int)
  | real (x : Float)

namespace Number

/-- Doubles are plain from a ten-thousandth up to ten quadrillions, and exponents have two digits. -/
def layout : Layout := ⟨-4, 16, 2⟩

/-- The number as it was given. -/
def text : Number → String
  | .whole n => Int.repr n
  | .real x => layout.text x

/-- The double nearest to the number. -/
def toFloat : Number → Float
  | .whole n => Binary.ofInt n
  | .real x => x

/-- The number without the places behind the point. -/
def truncate : Number → Except NotFinite Int
  | .whole n => .ok n
  | .real x => Binary.truncate x

/-- Whether the number is zero. -/
def isZero : Number → Bool
  | .whole n => n == 0
  | .real x => x == 0

/-- Whether the number is zero or less; what is no number is neither. -/
def notPositive : Number → Bool
  | .whole n => n ≤ 0
  | .real x => x ≤ 0

end Number

end Chip8.Decimal
