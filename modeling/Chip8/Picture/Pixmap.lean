import Chip8.Picture.Basic

/-!
# Pixmaps

A picture as the bytes of a portable pixmap: a heading with its size, and then its pixels row by row.
-/

namespace Chip8.Picture

/-- The three bytes of a pixel. -/
def pixelBytes (c : Colour) : List UInt8 := [c.red, c.green, c.blue]

/-- The heading of the pixmap. -/
def heading (p : Picture) : String :=
  "P6\n" ++ Nat.repr p.width ++ " " ++ Nat.repr p.height ++ "\n255\n"

/-- The bytes of the pixmap. -/
def pixmap (p : Picture) : List UInt8 :=
  p.heading.toUTF8.toList ++ p.rows.flatMap (·.flatMap pixelBytes)

end Chip8.Picture
