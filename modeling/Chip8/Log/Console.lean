import Chip8.Decimal.Fixed
import Chip8.Log.Level

/-!
# The console

Messages are shown as lines with the time since the console was made, their level and the name of who
speaks. A level may be any text; one that is no name of a level counts as `INFO`.

* `Console.admits`: whether messages of a level are shown.
* `Console.line`: the line of a message.
* `Console.show?`: the line of a message, if it is shown.
-/

namespace Chip8

/-- Where messages go, and how they look there. -/
structure Console where
  name : String
  threshold : Level
  coloured : Bool
  stamped : Bool

namespace Console

/-- Whether messages of a level are shown. -/
def admits (console : Console) (level : String) : Bool :=
  console.threshold.shows ((Level.ofText? level).getD .info)

/-- The code that ends a colour. -/
def plainCode : String := "\x1b[0m"

/-- The code that begins the colour of a level in capitals; other texts have none. -/
def colourCode (level : String) : String :=
  match Level.ofName? level with
  | some .debug => "\x1b[36m"
  | some .info => "\x1b[32m"
  | some .warning => "\x1b[33m"
  | some .error => "\x1b[31m"
  | some .critical => "\x1b[35m"
  | none => if level = "RESET" then plainCode else ""

/-- The level between brackets, eight characters wide and perhaps in its colour. -/
def levelPart (console : Console) (level : String) : String :=
  let plain := "[" ++ Text.padLeft ' ' 8 level ++ "]"
  if console.coloured then colourCode (Text.capitals level) ++ plain ++ plainCode else plain

/-- The time between brackets, in seconds with two places. -/
def timePart (console : Console) (elapsed : Float) : String :=
  if console.stamped then "[" ++ Text.padLeft ' ' 8 (Decimal.fixed 2 elapsed) ++ "s]" else ""

/-- The line of a message. -/
def line (console : Console) (elapsed : Float) (level text : String) : String :=
  console.timePart elapsed ++ console.levelPart level ++ "[" ++ console.name ++ "] " ++ text

/-- The line of a message, if it is shown. -/
def show? (console : Console) (elapsed : Float) (level text : String) : Option String :=
  if console.admits level then some (console.line elapsed level text) else none

end Console

end Chip8
