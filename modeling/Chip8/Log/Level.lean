import Chip8.Text.Capital
import Chip8.Text.Quoted

/-!
# Levels of messages

Five levels in ascending order. A threshold lets through what is at least as severe.
-/

namespace Chip8

/-- How severe a message is. -/
inductive Level where
  | debug
  | info
  | warning
  | error
  | critical
  deriving DecidableEq, Repr

namespace Level

/-- All levels, the least severe first. -/
def all : List Level := [.debug, .info, .warning, .error, .critical]

/-- The place of a level in the order. -/
def rank : Level → Nat
  | .debug => 0
  | .info => 1
  | .warning => 2
  | .error => 3
  | .critical => 4

/-- The name of a level. -/
def name : Level → String
  | .debug => "DEBUG"
  | .info => "INFO"
  | .warning => "WARNING"
  | .error => "ERROR"
  | .critical => "CRITICAL"

/-- The level with a name, which has to be in capitals. -/
def ofName? (name : String) : Option Level := all.find? (·.name = name)

/-- The level with a name in small letters or capitals. -/
def ofText? (text : String) : Option Level := ofName? (Text.capitals text)

/-- Whether a threshold lets a level through. -/
def shows (threshold level : Level) : Bool := threshold.rank ≤ level.rank

/-- What to say about a text that names no level. -/
def unknownMessage (text : String) : String :=
  "Unknown log level '" ++ text ++ "'. Available: [" ++ Text.quotedList (all.map name) ++ "]"

end Level

/-- A text with its level. -/
structure Message where
  level : Level
  text : String
  deriving DecidableEq, Repr

end Chip8
