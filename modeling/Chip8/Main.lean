import Chip8.Log.Console
import Chip8.Picture.Pixmap
import Chip8.Session
import Chip8.Window.Script

/-!
# The program

Plays a ROM from the command line. There being no real window, the events of one are read from standard
input, a line for each turn, and the last screen is written to standard output.
-/

namespace Chip8.Program

/-- How the program is called. -/
def usage : String :=
  "usage: chip8vm [-h] [--headless] [--steps STEPS] [--ips IPS] [--scale SCALE] "
    ++ "[--color-scheme NAME] [--grid] [--screenshot PATH] [--seed SEED] [--log-level LEVEL] rom"

/-- The number of steps after which a program that plays in a window without end is given up. -/
def limit : Nat := 100000

/-- The ROM in a file. -/
def find (file : String) : IO Session.Found := do
  try
    return .bytes (← IO.FS.readBinFile file).toList
  catch _ => return .nothing

/-- The lines of standard input. -/
partial def inputLines (input : IO.FS.Stream) : IO (List String) := do
  let line ← input.getLine
  if line.isEmpty then return []
  return String.ofList (line.toList.filter (· ≠ '\n')) :: (← inputLines input)

/-- The screen with a character for each pixel. -/
def screenLines (screen : Screen) : List String :=
  (List.range Screen.height).map fun y =>
    String.ofList <| (List.range Screen.width).map fun x =>
      if screen.getD (Screen.width * y + x) false then '#' else '.'

/-- Every picture is taken: it is written as a pixmap in the end, whatever its file is called. -/
def save : Session.Saver := fun _ _ => .ok ()

/-- Write what is left of a session, and end with its status. -/
def finish (o : Options) (start : Nat) (outcome : Session.Outcome) : IO UInt32 := do
  let console : Console := ⟨"chip8vm", o.level, false, true⟩
  let elapsed := Float.ofNat ((← IO.monoMsNow) - start) / 1000.0
  match outcome.picture with
  | some (file, picture) => IO.FS.writeBinFile file ⟨picture.pixmap.toArray⟩
  | none => pure ()
  for message in outcome.messages do
    IO.println (console.line elapsed message.level.name message.text)
  match outcome.machine with
  | some m => if o.headless then pure () else (screenLines m.processor.screen).forM IO.println
  | none => pure ()
  return UInt32.ofNat outcome.exitCode

/-- Play with the given options. -/
def play (o : Options) : IO UInt32 := do
  let start ← IO.monoMsNow
  let found ← find o.rom
  let lines ← if o.headless then pure [] else inputLines (← IO.getStdin)
  match Session.run? limit save o found (lines.map WindowEvent.ofLine) with
  | some (.ok outcome) => finish o start outcome
  | some (.error crash) =>
    IO.eprintln crash.message
    return 1
  | none =>
    IO.eprintln "The program does not come to an end."
    return 1

end Chip8.Program

/-- The entry of the program. -/
def main (arguments : List String) : IO UInt32 := do
  match Chip8.Options.parse arguments with
  | .ok o => Chip8.Program.play o
  | .error stop =>
    match stop with
    | .help => IO.println Chip8.Program.usage
    | .problem _ =>
      IO.eprintln Chip8.Program.usage
      IO.eprintln stop.lastLine
    return UInt32.ofNat stop.exitCode
