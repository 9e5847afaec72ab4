import Chip8.CommandLine.Arguments
import Chip8.Decimal.Reader
import Chip8.Log.Level
import Chip8.Machine.Basic
import Chip8.Picture.Scheme

/-!
# Options of the program

What the program can be asked for on the command line.

* `Options`: everything that was asked for.
* `Options.parse`: the options of a command line, or why the program ends at once.
-/

namespace Chip8

open CommandLine

/-- The options that the program knows. -/
inductive OptionName where
  | help
  | headless
  | steps
  | rate
  | scale
  | scheme
  | grid
  | screenshot
  | seed
  | level
  deriving DecidableEq, Repr

/-- What was asked for, apart from the program to be played. -/
structure Preferences where
  headless : Bool
  /-- The number of steps of a run without a window. -/
  steps : Int
  /-- The steps per second. -/
  rate : Rate
  scale : Int
  scheme : Scheme
  grid : Bool
  /-- The file for the last picture of a run without a window. -/
  screenshot : Option String
  seed : Int
  level : Level

/-- Everything that was asked for. -/
structure Options extends Preferences where
  /-- The file of the program to be played. -/
  rom : String

/-- Why the program ends before it begins. -/
inductive Stop where
  /-- Help is asked for. -/
  | help
  | problem (p : Problem)

/-- The status with which the program ends. -/
def Stop.exitCode : Stop → Nat
  | .help => 0
  | .problem _ => 2

/-- The last line that is written about the end. -/
def Stop.lastLine : Stop → String
  | .help => ""
  | .problem p => "chip8vm: error: " ++ p.message

namespace Options

/-- The options with their names, in the order in which several that fit are listed. -/
def switches : List (Switch OptionName) := [
  ⟨.help, ["-h", "--help"], false⟩,
  ⟨.headless, ["--headless"], false⟩,
  ⟨.steps, ["--steps"], true⟩,
  ⟨.rate, ["--ips"], true⟩,
  ⟨.scale, ["--scale"], true⟩,
  ⟨.scheme, ["--color-scheme"], true⟩,
  ⟨.grid, ["--grid"], false⟩,
  ⟨.screenshot, ["--screenshot"], true⟩,
  ⟨.seed, ["--seed"], true⟩,
  ⟨.level, ["--log-level"], true⟩]

/-- What is asked for when nothing is said. -/
def defaults : Preferences where
  headless := false
  steps := 10000
  rate := Machine.defaultStepRate
  scale := 10
  scheme := .classic
  grid := false
  screenshot := none
  seed := 0
  level := .info

/-- The integer that is given to an option. -/
def integer (option value : String) : Except Stop Int :=
  match Decimal.readInt? value with
  | some n => .ok n
  | none => .error (.problem (.badValue option "int" value))

/-- The double that is given to an option. -/
def real (option value : String) : Except Stop Float :=
  match Decimal.readReal? value with
  | some x => .ok x
  | none => .error (.problem (.badValue option "float" value))

/-- One of several named things that is given to an option. -/
def choice {α : Type} (option value : String) (all : List α) (name : α → String) : Except Stop α :=
  match all.find? (name · = value) with
  | some a => .ok a
  | none => .error (.problem (.badChoice option value (all.map name)))

/-- Take an option into account. -/
def takeOption (p : Preferences) (s : Switch OptionName) (value : String) :
    Except Stop Preferences :=
  match s.id with
  | .help => .error .help
  | .headless => .ok { p with headless := true }
  | .grid => .ok { p with grid := true }
  | .steps => return { p with steps := ← integer s.title value }
  | .rate => return { p with rate := .real (← real s.title value) }
  | .scale => return { p with scale := ← integer s.title value }
  | .seed => return { p with seed := ← integer s.title value }
  | .scheme => return { p with scheme := ← choice s.title value Scheme.all Scheme.name }
  | .screenshot => .ok { p with screenshot := some value }
  | .level => return { p with level := ← choice s.title (Text.capitals value) Level.all Level.name }

/-- Take what is given into account, the file of the program apart from the rest. -/
def take (asked : Preferences × Option String) :
    Given OptionName → Except Stop (Preferences × Option String)
  | .option s value => return (← takeOption asked.1 s (value.getD ""), asked.2)
  | .plain text => .ok (asked.1, some text)

/-- The options of a command line. -/
def parse (arguments : List String) : Except Stop Options := do
  let reading := read switches arguments
  let (preferences, rom?) ← reading.given.foldlM take (defaults, none)
  match reading.rest, rom? with
  | .error p, _ => throw (.problem p)
  | .ok _, none => throw (.problem (.missing "rom"))
  | .ok [], some rom => return { preferences with rom }
  | .ok rest, some _ => throw (.problem (.unrecognized rest))

end Options

end Chip8
