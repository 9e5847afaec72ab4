import Chip8.Picture.Basic
import Chip8.Text.Quoted

/-!
# Colour schemes

Pairs of colours with a name, for lit and for dark pixels.

* `Scheme.ofName?`, `Scheme.on`, `Scheme.off`: the schemes and their colours.
* `Picture.screenshot`: the picture of cells in a scheme, as it is saved.
-/

namespace Chip8

/-- A pair of colours for lit and dark pixels. -/
inductive Scheme where
  | classic
  | amber
  | white
  | paper
  | blue
  | retro
  deriving DecidableEq, Repr

namespace Scheme

/-- All schemes. -/
def all : List Scheme := [.classic, .amber, .white, .paper, .blue, .retro]

/-- The name of a scheme. -/
def name : Scheme → String
  | .classic => "classic"
  | .amber => "amber"
  | .white => "white"
  | .paper => "paper"
  | .blue => "blue"
  | .retro => "retro"

/-- The scheme with a name. -/
def ofName? (name : String) : Option Scheme := all.find? (·.name = name)

/-- The scheme with a name, or an error. -/
def ofName (name : String) : Except PictureError Scheme :=
  match ofName? name with
  | some scheme => .ok scheme
  | none => .error (.unknownScheme name)

/-- The colour of lit pixels. -/
def on : Scheme → Colour
  | .classic => ⟨0, 255, 0⟩
  | .amber => ⟨255, 176, 0⟩
  | .white => ⟨255, 255, 255⟩
  | .paper => ⟨0, 0, 0⟩
  | .blue => ⟨0, 255, 255⟩
  | .retro => ⟨255, 255, 0⟩

/-- The colour of dark pixels. -/
def off : Scheme → Colour
  | .classic | .amber | .white => ⟨0, 0, 0⟩
  | .paper => ⟨255, 255, 255⟩
  | .blue => ⟨0, 0, 64⟩
  | .retro => ⟨64, 0, 64⟩

end Scheme

/-- The error in words. -/
def PictureError.message : PictureError → String
  | .wrongSize cells => "Expected 2048 display cells, got " ++ Nat.repr cells
  | .badPart value => "Python integer " ++ Int.repr value ++ " out of bounds for uint8"
  | .unknownScheme name =>
    "Unknown color scheme '" ++ name ++ "'. Available: ["
      ++ Text.quotedList (Scheme.all.map Scheme.name) ++ "]"

namespace Picture

/-- The default scale of pictures. -/
def defaultScale : Int := 8

/-- The colour of the grid in a saved picture. -/
def screenshotGrid : Colour := ⟨128, 128, 128⟩

/-- The picture of a screen in a scheme, as it is saved. -/
def screenshot (screen : Screen) (scale : Int) (scheme : Scheme) (grid : Bool) : Picture :=
  paint screen scale scheme.on scheme.off (if grid then some screenshotGrid else none)

/-- The picture of cells in the scheme with a name, as it is saved. The name is checked first. -/
def screenshotOfCells (cells : List Cell) (scale : Int) (scheme : String) (grid : Bool) :
    Except PictureError Picture := do
  let scheme ← Scheme.ofName scheme
  match Screen.ofCells? cells with
  | none => throw (.wrongSize cells.length)
  | some screen => return screenshot screen scale scheme grid

end Picture

end Chip8
