import Chip8.Decimal.Binary

/-!
# The shortest decimal of a double

A double is shown with the fewest digits that read back to it; among these the nearest to its value is
taken, and of two equally near ones the even one.

* `shortest`: the digits, and the power of ten that they are multiplied by.
* `Layout`: where the point goes, and when an exponent is written.
* `text`: the text of a double.
-/

namespace Chip8.Decimal

/-- The number of decimal digits. -/
def digitCount (n : Nat) : Nat := (Nat.toDigits 10 n).length

/-- The exponent of the first digit of a positive fraction. -/
def leadingExponent (num den : Nat) : Int :=
  if den ≤ num then (digitCount (num / den) : Int) - 1 else -(digitCount ((den - 1) / num) : Int)

/-- A decimal `n * 10 ^ power` that reads back to the double `m * 2 ^ e`, if there is one with this
power. The numbers that read back lie between the two middles to the neighbours of the double, the
middles included when `m` is even; all are compared in quarters of its last bit. -/
def onGrid? (m : Nat) (e power : Int) : Option Nat :=
  let below := if m = pow2 52 ∧ -1074 < e then 4 * m - 1 else 4 * m - 2
  let unit := pow2 (e - 2).toNat * pow10 (-power).toNat
  let step := pow10 power.toNat * pow2 (2 - e).toNat
  let value := 4 * m * unit
  let inside (n : Nat) : Bool :=
    if m % 2 = 0 then below * unit ≤ n * step ∧ n * step ≤ (4 * m + 2) * unit
    else below * unit < n * step ∧ n * step < (4 * m + 2) * unit
  let low := value / step
  match inside low, inside (low + 1) with
  | false, false => none
  | true, false => some low
  | false, true => some (low + 1)
  | true, true => some (roundDiv value step)

/-- The fewest digits that read back to the positive double `m * 2 ^ e`, and the power of ten that
they are multiplied by. Seventeen digits are always enough. -/
def shortest (m : Nat) (e : Int) : Nat × Int :=
  let (num, den) := Binary.fraction m e
  let first := leadingExponent num den
  ((List.range 17).findSome? fun (more : Nat) =>
    (onGrid? m e (first - more)).map fun n => (n, first - more)).getD (0, 0)

/-- Where numbers change from plain to scientific form, and how long exponents are at least. -/
structure Layout where
  /-- The least exponent of the first digit in plain form. -/
  plainFrom : Int
  /-- The least exponent of the first digit, above those of plain form, in scientific form. -/
  plainBelow : Int
  exponentDigits : Nat

/-- The digits as text, with those behind the first `before` of them behind a point. -/
def pointed (digits : List Char) (before : Nat) : String :=
  if digits.length ≤ before then String.ofList digits
  else String.ofList (digits.take before ++ '.' :: digits.drop before)

/-- An exponent with its sign. -/
def Layout.exponentText (layout : Layout) (exponent : Int) : String :=
  let digits := Nat.toDigits 10 exponent.natAbs
  let zeros := List.replicate (layout.exponentDigits - digits.length) '0'
  String.ofList ('e' :: (if exponent < 0 then '-' else '+') :: zeros ++ digits)

/-- The number `n * 10 ^ power` in the layout; `n` is positive and has no zero at its end. In plain
form at least one digit stands on each side of the point. -/
def Layout.positive (layout : Layout) (n : Nat) (power : Int) : String :=
  let digits := Nat.toDigits 10 n
  let first := power + digits.length - 1
  if layout.plainFrom ≤ first ∧ first < layout.plainBelow then
    if first < 0 then "0." ++ String.ofList (List.replicate (-first - 1).toNat '0' ++ digits)
    else if 0 ≤ power then String.ofList (digits ++ List.replicate power.toNat '0') ++ ".0"
    else pointed digits (first + 1).toNat
  else pointed digits 1 ++ layout.exponentText first

/-- The text of a double. -/
def Layout.text (layout : Layout) (x : Float) : String :=
  match Binary.ofFloat x with
  | .nan => "nan"
  | .infinite negative => if negative then "-inf" else "inf"
  | .finite negative m e =>
    let (n, power) := shortest m e
    (if negative then "-" else "") ++ if m = 0 then "0.0" else trimmed n power
where
  /-- A number that was rounded up to a power of ten has one digit. -/
  trimmed (n : Nat) (power : Int) : String :=
    if n % 10 = 0 then layout.positive (n / 10) (power + 1) else layout.positive n power

end Chip8.Decimal
