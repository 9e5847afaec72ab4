import Chip8.Decimal.Number
import Chip8.Screen

/-!
# Pictures

A screen is painted with one colour for lit pixels and one for dark ones, enlarged by a whole factor, and
outlined by a grid if it is larger than the screen.

* `Picture.paint`: the picture of a screen.
* `Cell`, `Screen.ofCells?`: the cells of a display from elsewhere, and the screen that they make up.
* `Picture.ofCells`: the picture of cells in colours that still have to be checked.
-/

namespace Chip8

/-- A colour of three parts. -/
structure Colour where
  red : UInt8
  green : UInt8
  blue : UInt8
  deriving DecidableEq, Repr

/-- Three integers that may be the parts of a colour. -/
structure Parts where
  red : Int
  green : Int
  blue : Int
  deriving DecidableEq, Repr

/-- Why there is no picture. -/
inductive PictureError where
  /-- A screen has another number of cells. -/
  | wrongSize (cells : Nat)
  /-- A part of a colour is not in the range from 0 to 255. -/
  | badPart (value : Int)
  | unknownScheme (name : String)
  deriving DecidableEq, Repr

/-- A picture, row by row from the top left. -/
structure Picture where
  rows : List (List Colour)
  deriving DecidableEq, Repr

/-- The colour of three integers, each of which has to be in range; the first that is not is told. -/
def Parts.colour (parts : Parts) : Except PictureError Colour := do
  return ⟨← check parts.red, ← check parts.green, ← check parts.blue⟩
where
  /-- A part in range. -/
  check (value : Int) : Except PictureError UInt8 :=
    if 0 ≤ value ∧ value < 256 then .ok (UInt8.ofNat value.toNat) else .error (.badPart value)

/-- The parts of a colour. -/
def Colour.parts (c : Colour) : Parts := ⟨c.red.toNat, c.green.toNat, c.blue.toNat⟩

namespace Picture

/-- Each element `factor` times in a row. -/
def enlarge {α : Type} (factor : Nat) (xs : List α) : List α :=
  xs.flatMap (List.replicate factor)

/-- The screen with one colour per pixel. -/
def plain (screen : Screen) (on off : Colour) : List (List Colour) :=
  (List.range Screen.height).map fun y => (List.range Screen.width).map fun x =>
    if screen.getD (Screen.width * y + x) false then on else off

/-- The rows with every `period`-th row and column in one colour, the first ones included. -/
def rule (period : Nat) (colour : Colour) (rows : List (List Colour)) : List (List Colour) :=
  rows.mapIdx fun r row => row.mapIdx fun c old =>
    if r % period = 0 ∨ c % period = 0 then colour else old

/-- The picture of a screen. A scale below 2 does not enlarge, and then there is no grid. -/
def paint (screen : Screen) (scale : Int) (on off : Colour) (grid : Option Colour) : Picture :=
  let rows := plain screen on off
  if 1 < scale then
    let factor := scale.toNat
    let large := enlarge factor (rows.map (enlarge factor))
    match grid with
    | some colour => ⟨rule factor colour large⟩
    | none => ⟨large⟩
  else ⟨rows⟩

/-- The number of rows. -/
def height (p : Picture) : Nat := p.rows.length

/-- The number of columns. -/
def width (p : Picture) : Nat := (p.rows.headD []).length

end Picture

/-- The content of a cell of a display from elsewhere. -/
abbrev Cell := Decimal.Number

/-- A cell is lit unless it is zero; what is no number is lit. -/
def Cell.lit (cell : Cell) : Bool := !cell.isZero

/-- The screen with the given cells line by line, if there are as many as it has pixels. -/
def Screen.ofCells? (cells : List Cell) : Option Screen :=
  if h : cells.length = 2048 then some ⟨(cells.map Cell.lit).toArray, by simpa using h⟩ else none

/-- The picture of cells in colours of integers. The number of cells is checked first, then the colours
in the order in which they are put on; that of a grid is checked only if there is one to draw. -/
def Picture.ofCells (cells : List Cell) (scale : Int) (on off : Parts) (grid : Option Parts) :
    Except PictureError Picture :=
  match Screen.ofCells? cells with
  | none => .error (.wrongSize cells.length)
  | some screen => do
    let on ← on.colour
    let off ← off.colour
    let grid ← if 1 < scale then grid.mapM Parts.colour else pure none
    return paint screen scale on off grid

end Chip8
