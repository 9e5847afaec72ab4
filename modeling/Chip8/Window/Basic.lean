import Chip8.Machine.Run
import Chip8.Picture.Scheme

/-!
# The window

A window plays a program on a machine. It is the renderer of the machine, and listens to its faults. Keys
that stand for keys of the keypad are passed on, F1 pauses, F2 begins anew, F3 shows or hides what is
inside the machine, and the escape key closes the window.

* `Window`: the state of the window; `Window.attach`: a window around a machine.
* `Window.absorb`: what the window does about the events of its machine.
* `Window.view`: the frame that is drawn, a picture with texts over it.
-/

namespace Chip8

/-- A window and the machine in it. -/
structure Window where
  machine : Machine
  /-- The program, which is loaded again on a reset. -/
  rom : Rom
  scale : Int
  scheme : Scheme
  grid : Bool
  showInside : Bool
  paused : Bool
  /-- The error that ended the loops. -/
  trouble : Option Trouble
  /-- The screen that the machine showed last. -/
  shown : Screen

/-- A box of text over the picture. -/
structure Overlay where
  lines : List String
  x : Nat
  y : Nat
  /-- How much the box hides of the picture, up to 255. -/
  opacity : Nat
  /-- The colour of the text, unless it is white as usual. -/
  colour : Option Colour

/-- What a window draws. -/
structure Frame where
  picture : Picture
  overlays : List Overlay

namespace Window

/-- A window around a machine at the start of a program. -/
def attach (machine : Machine) (rom : Rom) (scale : Int) (scheme : Scheme) (grid : Bool) : Window where
  machine := { machine with renderer := .faithful, listener := .attentive }
  rom := rom
  scale := scale
  scheme := scheme
  grid := grid
  showInside := false
  paused := false
  trouble := none
  shown := Screen.blank

/-- Keep the screen that is shown, and remember the error that is told. -/
def absorbOne (w : Window) : Event → Window
  | .notice _ => w
  | .frame screen => { w with shown := screen }
  | .report t => { w with trouble := some t }

/-- Do what is due about the events of the machine, whose new state is given. -/
def absorb (w : Window) (machine : Machine) (events : List Event) : Window :=
  events.foldl absorbOne { w with machine }

/-- The colour of the grid in a window. -/
def gridColour : Colour := ⟨64, 64, 64⟩

/-- The picture of the screen that the machine showed last. -/
def picture (w : Window) : Picture :=
  Picture.paint w.shown w.scale w.scheme.on w.scheme.off (if w.grid then some gridColour else none)

/-- Four registers from a multiple of four on. -/
def registerLine (p : Processor) (first : Nat) : String :=
  String.intercalate " " <| (List.range 4).map fun j =>
    "V" ++ Text.hex 1 (first + j) ++ ":" ++ Text.hex 2 (p.registers.getD (first + j) 0).toNat

/-- What is inside the machine. -/
def insideLines (m : Machine) : List String :=
  let p := m.processor
  ["PC: 0x" ++ Text.hex 3 p.counter.toNat ++ "  I: 0x" ++ Text.hex 3 p.index.toNat,
   "DT: " ++ Nat.repr p.delay.toNat ++ "  ST: " ++ Nat.repr p.sound.toNat,
   "Instructions: " ++ Nat.repr m.count] ++ [0, 4, 8, 12].map (registerLine p)

/-- A box of text in the corner where all of them stand. -/
def corner (lines : List String) (opacity : Nat) (colour : Option Colour) : Overlay :=
  ⟨lines, 5, 5, opacity, colour⟩

/-- The texts over the picture: what is inside if that is wanted, and then an error, or else that the
machine is paused. -/
def overlays (w : Window) : List Overlay :=
  let inside := if w.showInside then [corner (insideLines w.machine) 100 none] else []
  let state := match w.trouble with
    | some t => [corner [t.message, "F2 to reset, ESC to quit"] 180 (some ⟨255, 80, 80⟩)]
    | none => if w.paused then [corner ["PAUSED - F1 to resume"] 150 (some ⟨255, 255, 0⟩)] else []
  inside ++ state

/-- What the window draws. -/
def view (w : Window) : Frame := ⟨w.picture, w.overlays⟩

end Window

end Chip8
