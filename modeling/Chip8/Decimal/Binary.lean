/-!
# Numbers of 64 bits

A finite double is `m * 2 ^ e` with a sign, where `m < 2 ^ 53`. Here doubles are taken apart into such
numbers and built as the double that is nearest to a fraction. All is done in exact arithmetic.

* `Binary.ofFloat`: what a double stands for.
* `roundDiv`: a quotient rounded to the nearest integer, a half going to the even neighbour.
* `Binary.nearest`, `Binary.ofInt`: the double nearest to a fraction, and to an integer.
* `Binary.truncate`, `Binary.round`: the integer part, and the nearest integer, of a double.
-/

namespace Chip8.Decimal

/-- A power of two. -/
def pow2 (n : Nat) : Nat := Nat.pow 2 n

/-- A power of ten. -/
def pow10 (n : Nat) : Nat := Nat.pow 10 n

/-- A quotient rounded to the nearest integer; a half goes to the even neighbour. -/
def roundDiv (num den : Nat) : Nat :=
  let q := num / den
  let twice := 2 * (num % den)
  if twice < den then q
  else if den < twice then q + 1
  else q + q % 2

/-- What a double stands for. -/
inductive Binary where
  | nan
  | infinite (negative : Bool)
  /-- The number `m * 2 ^ e`, or its opposite. -/
  | finite (negative : Bool) (m : Nat) (e : Int)
  deriving DecidableEq, Repr

/-- Why a double has no integer part. -/
inductive NotFinite where
  | nan
  | infinite
  deriving DecidableEq, Repr

/-- The reason in words. -/
def NotFinite.message : NotFinite → String
  | .nan => "cannot convert float NaN to integer"
  | .infinite => "cannot convert float infinity to integer"

namespace Binary

/-- The number with the given 64 bits: a sign, eleven bits of exponent, and 52 bits of fraction. -/
def ofBits (bits : Nat) : Binary :=
  let negative := bits / pow2 63 % 2 == 1
  let exponent := bits / pow2 52 % pow2 11
  let fraction := bits % pow2 52
  if exponent = 2047 then if fraction = 0 then .infinite negative else .nan
  else if exponent = 0 then .finite negative fraction (-1074)
  else .finite negative (pow2 52 + fraction) ((exponent : Int) - 1075)

/-- What a double stands for. -/
def ofFloat (x : Float) : Binary := ofBits x.toBits.toNat

/-- The fraction `m * 2 ^ e`. -/
def fraction (m : Nat) (e : Int) : Nat × Nat :=
  (m * pow2 e.toNat, pow2 (-e).toNat)

/-- The exponent with which a positive fraction has 53 bits, or the least exponent if it has fewer. -/
def exponentOf (num den : Nat) : Int :=
  let guess : Int := (num.log2 : Int) - den.log2 - 52
  let full := den * pow2 guess.toNat * pow2 52 ≤ num * pow2 (-guess).toNat
  max (if full then guess else guess - 1) (-1074)

/-- The bits of the double nearest to a fraction, without a sign; a half goes to the even neighbour,
and what is too large becomes infinite. -/
def nearestBits (num den : Nat) : Nat :=
  if num = 0 then 0
  else
    let e := exponentOf num den
    min ((e + 1074).toNat * pow2 52 + roundDiv (num * pow2 (-e).toNat) (den * pow2 e.toNat))
      (2047 * pow2 52)

/-- The double nearest to a fraction. -/
def nearest (negative : Bool) (num den : Nat) : Float :=
  Float.ofBits (UInt64.ofNat ((if negative then pow2 63 else 0) + nearestBits num den))

/-- The infinite double. -/
def infinity (negative : Bool) : Float :=
  Float.ofBits (if negative then 0xFFF0000000000000 else 0x7FF0000000000000)

/-- The double nearest to an integer. -/
def ofInt (n : Int) : Float := nearest (n < 0) n.natAbs 1

/-- An integer with a sign. -/
def signed (negative : Bool) (n : Nat) : Int := if negative then -n else n

/-- The fraction that a finite double stands for, and whether a sign stands in front of it. -/
def finiteOf (x : Float) : Except NotFinite (Bool × Nat × Nat) :=
  match ofFloat x with
  | .nan => .error .nan
  | .infinite _ => .error .infinite
  | .finite negative m e => .ok (negative, fraction m e)

/-- The integer part of a double. -/
def truncate (x : Float) : Except NotFinite Int :=
  (finiteOf x).map fun (negative, num, den) => signed negative (num / den)

/-- The integer nearest to a double; a half goes to the even neighbour. -/
def round (x : Float) : Except NotFinite Int :=
  (finiteOf x).map fun (negative, num, den) => signed negative (roundDiv num den)

end Binary

end Chip8.Decimal
