import Chip8.Decimal.Number

/-!
# Rates

How often per second something is to happen.

* `Rate.period`: the seconds between two times.
* `Rate.check`: the period of a rate that can be used, or why it cannot.
-/

namespace Chip8

/-- A number of times per second. -/
abbrev Rate := Decimal.Number

/-- Why a rate cannot be used. -/
inductive RateError where
  | notPositive (rate : Rate)
  /-- The integer is beyond all doubles. -/
  | tooLarge

namespace Rate

/-- Whether the rate is an integer beyond all doubles. -/
def tooLarge : Rate → Bool
  | .whole n => (Decimal.Binary.ofInt n).isInf
  | .real _ => false

/-- The seconds between two times. -/
def period (rate : Rate) : Float := 1.0 / rate.toFloat

/-- The period of a rate that can be used. -/
def check (rate : Rate) : Except RateError Float :=
  if rate.notPositive then .error (.notPositive rate)
  else if rate.tooLarge then .error .tooLarge
  else .ok rate.period

end Rate

/-- The reason in words. -/
def RateError.message : RateError → String
  | .notPositive rate => "Frequency must be positive, got " ++ rate.text
  | .tooLarge => "int too large to convert to float"

end Chip8
