import Chip8.Window.Play

/-!
# Scripts of window events

Events of a window written as texts, for a host that has no window to take them from: `down:` or `up:`
and the name of a key, or `quit`.
-/

namespace Chip8

/-- The key with a name. -/
def KeyName.ofText (text : String) : KeyName :=
  if text = "ESC" then .escape
  else if text = "F1" then .f1
  else if text = "F2" then .f2
  else if text = "F3" then .f3
  else .typed text

/-- The text behind a beginning. -/
def Text.behind? (start text : String) : Option String :=
  if start.toList.isPrefixOf text.toList then some (String.ofList (text.toList.drop start.length))
  else none

/-- The event that a text stands for; any other text is an event that does not matter. -/
def WindowEvent.ofText (text : String) : WindowEvent :=
  match Text.behind? "down:" text, Text.behind? "up:" text with
  | some name, _ => .keyDown (.ofText name)
  | none, some name => .keyUp (.ofText name)
  | none, none => if text = "quit" then .quit else .other

/-- The events of one turn, separated by commas. -/
def WindowEvent.ofLine (line : String) : List WindowEvent :=
  (line.splitOn ",").map .ofText

end Chip8
