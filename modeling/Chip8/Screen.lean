import Chip8.Memory

/-!
# The screen

64 columns and 32 lines of pixels that are lit or dark, line by line from the top left. A sprite is
eight pixels wide and wraps around both edges. It is drawn by switching its pixels over.

* `Screen.sprite`: the pixels of a sprite, placed on an otherwise dark screen.
* `Screen.overlay`: a screen with the pixels of another one switched over.
* `Screen.collides`: whether two screens have a lit pixel in common.
-/

namespace Chip8

/-- The number of pixels. -/
def Screen.size : Nat := 2048

/-- Pixel `(x, y)` is at `64 * y + x`, and is lit when the cell is true. -/
abbrev Screen := Vector Bool 2048

namespace Screen

/-- The number of columns. -/
def width : Nat := 64

/-- The number of lines. -/
def height : Nat := 32

/-- All pixels are dark. -/
def blank : Screen := Vector.replicate 2048 false

/-- How far column or line `b` lies behind `a` when counting wraps at `period`. -/
def distance (period a b : Nat) : Nat := (b + period - a) % period

/-- Whether a sprite of `rows` rows from place `start`, placed at column `x` and line `y`, has a pixel
at a cell of the screen. The high bit of a row is its left pixel. -/
def spriteLights (m : Memory) (start rows x y : Nat) (cell : Nat) : Bool :=
  let column := distance width x (cell % width)
  let row := distance height y (cell / width)
  decide (column < 8) && decide (row < rows) && (m.byteAt (start + row)).toNat.testBit (7 - column)

/-- The pixels of a sprite, with all others dark. -/
def sprite (m : Memory) (start rows x y : Nat) : Screen :=
  Vector.ofFn fun cell => spriteLights m start rows x y cell

/-- Switch over the pixels that are lit in `s`. -/
def overlay (screen s : Screen) : Screen :=
  Vector.ofFn fun i => screen[i] ^^ s[i]

/-- Whether a pixel is lit in both. -/
def collides (screen s : Screen) : Bool :=
  (List.finRange 2048).any fun i => screen[i] && s[i]

end Screen

end Chip8
