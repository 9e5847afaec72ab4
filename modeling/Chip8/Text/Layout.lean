/-!
# Laying out short texts

Padding to a width and hexadecimal numbers, as used by the disassembly and the messages.

* `padLeft c w s`: `s` with enough copies of `c` in front to be `w` characters long.
* `hex w n`: `n` in capital hexadecimal digits, at least `w` of them.
* `lowerHex w n`: the same in small letters.
-/

namespace Chip8.Text

/-- Text `s` with copies of `c` in front until it has `width` characters; longer text stays. -/
def padLeft (c : Char) (width : Nat) (s : String) : String :=
  String.ofList (List.replicate (width - s.length) c) ++ s

/-- The number `n` in small hexadecimal digits, at least `width` of them. -/
def lowerHex (width n : Nat) : String :=
  padLeft '0' width (String.ofList (Nat.toDigits 16 n))

/-- The number `n` in capital hexadecimal digits, at least `width` of them. -/
def hex (width n : Nat) : String :=
  padLeft '0' width (String.ofList ((Nat.toDigits 16 n).map Char.toUpper))

end Chip8.Text
