import Chip8.Decimal.Binary
import Chip8.Text.Layout

/-!
# Decimals with a fixed number of places

The exact value of a double is rounded to a number of decimal places, a half going to the even
neighbour. The sign is kept also when nothing else is left of the number.
-/

namespace Chip8.Decimal

/-- The digits of `n`, the last `places` of them behind a point. -/
def withPoint (places n : Nat) : String :=
  if places = 0 then Nat.repr n
  else Nat.repr (n / pow10 places) ++ "." ++ Text.padLeft '0' places (Nat.repr (n % pow10 places))

/-- A double with a fixed number of decimal places. -/
def fixed (places : Nat) (x : Float) : String :=
  match Binary.ofFloat x with
  | .nan => "nan"
  | .infinite negative => if negative then "-inf" else "inf"
  | .finite negative m e =>
    let (num, den) := Binary.fraction m e
    (if negative then "-" else "") ++ withPoint places (roundDiv (num * pow10 places) den)

end Chip8.Decimal
