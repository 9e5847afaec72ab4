import Chip8.Decimal.Binary
import Chip8.Text.Digit

/-!
# Reading numbers

Numbers are read from texts with blanks around them, a sign, digits of any script, and underscores that
each stand between two digits.

* `readInt?`: an integer of at most `intDigits` digits.
* `readReal?`: a double, also from a text with a point, an exponent, or one of the words for the
  infinite and for what is no number.
-/

namespace Chip8.Decimal

open Text

/-- The most digits that an integer may have. -/
def intDigits : Nat := 4300

/-- The text without the blanks around it. -/
def trim (cs : List Char) : List Char :=
  ((cs.dropWhile isBlank).reverse.dropWhile isBlank).reverse

/-- Whether a sign of the opposite stands in front, and the text after the sign. -/
def splitSign : List Char → Bool × List Char
  | '-' :: rest => (true, rest)
  | '+' :: rest => (false, rest)
  | rest => (false, rest)

/-- Whether a character may stand in a run of digits. -/
def isRunChar (c : Char) : Bool := isDigit c || c == '_'

/-- Whether a text has digits, and underscores only between two of them. -/
def isRun : List Char → Bool
  | [] => false
  | [c] => isDigit c
  | c :: '_' :: rest => isDigit c && isRun rest
  | c :: rest => isDigit c && isRun rest

/-- The digits of a run. -/
def runDigits (run : List Char) : List Nat := run.filterMap digitValue?

/-- The number with the given digits. -/
def ofDigits (digits : List Nat) : Nat := digits.foldl (10 * · + ·) 0

/-- The integer that a text shows. -/
def readInt? (s : String) : Option Int :=
  let (negative, run) := splitSign (trim s.toList)
  let digits := runDigits run
  if isRun run ∧ digits.length ≤ intDigits then some (Binary.signed negative (ofDigits digits)) else none

/-- The exponent that is written at the end of a number, zero if none is. -/
def exponent? : List Char → Option Int
  | [] => some 0
  | mark :: rest =>
    let (negative, run) := splitSign rest
    if (mark == 'e' || mark == 'E') && isRun run then
      some (Binary.signed negative (ofDigits (runDigits run)))
    else none

/-- The digits before and after the point, and what comes after both. -/
def splitPoint (cs : List Char) : List Char × List Char × List Char :=
  let whole := cs.takeWhile isRunChar
  match cs.dropWhile isRunChar with
  | '.' :: rest => (whole, rest.takeWhile isRunChar, rest.dropWhile isRunChar)
  | rest => (whole, [], rest)

/-- The double nearest to the number with the given digits, times a power of ten. What is far beyond the
range of doubles is not worked out. -/
def scaled (negative : Bool) (digits : List Nat) (power : Int) : Float :=
  let n := ofDigits digits
  let size := digits.length + power
  if n = 0 ∨ size < -400 then Binary.nearest negative 0 1
  else if 400 + digits.length < size then Binary.infinity negative
  else Binary.nearest negative (n * pow10 power.toNat) (pow10 (-power).toNat)

/-- The number without sign that a text shows with digits. -/
def readDigits? (negative : Bool) (cs : List Char) : Option Float := do
  let (whole, part, rest) := splitPoint cs
  guard (whole.isEmpty || isRun whole)
  guard (part.isEmpty || isRun part)
  guard !(whole.isEmpty && part.isEmpty)
  let power ← exponent? rest
  return scaled negative (runDigits whole ++ runDigits part) (power - (runDigits part).length)

/-- The double that a text shows. -/
def readReal? (s : String) : Option Float :=
  let (negative, cs) := splitSign (trim s.toList)
  let word := String.ofList (cs.map Char.toLower)
  if word = "inf" ∨ word = "infinity" then some (Binary.infinity negative)
  else if word = "nan" then some (Float.ofBits 0x7FF8000000000000)
  else readDigits? negative cs

end Chip8.Decimal
