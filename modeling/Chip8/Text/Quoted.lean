import Chip8.Text.Layout
import Chip8.Text.Printable

/-!
# Quoted texts

A text in messages stands between single quotes, or between double quotes if it has a single quote and
no double one. A character that cannot be shown is written with a backslash.
-/

namespace Chip8.Text

/-- One character between the given quotes. -/
def quotedChar (quote c : Char) : String :=
  let n := c.toNat
  if c = quote ∨ c = '\\' then String.ofList ['\\', c]
  else if c = '\t' then "\\t"
  else if c = '\n' then "\\n"
  else if c = '\r' then "\\r"
  else if isPrintable c then String.ofList [c]
  else if n < 0x100 then "\\x" ++ lowerHex 2 n
  else if n < 0x10000 then "\\u" ++ lowerHex 4 n
  else "\\U" ++ lowerHex 8 n

/-- A text between quotes. -/
def quoted (s : String) : String :=
  let cs := s.toList
  let quote := if cs.contains '\'' && !cs.contains '"' then '"' else '\''
  String.ofList [quote] ++ String.join (cs.map (quotedChar quote)) ++ String.ofList [quote]

/-- Several quoted texts, separated by commas. -/
def quotedList (texts : List String) : String :=
  String.intercalate ", " (texts.map quoted)

end Chip8.Text
