import Chip8.Decimal.Fixed
import Chip8.Instruction.Assembly
import Chip8.Log.Level
import Chip8.Processor.Fault

/-!
# Notices

What a machine has to say about its work. A notice is shown when the threshold of the machine lets its
level through.

* `HostFailure`: an error raised by code of the host, which may be of the kind of the machine's own errors.
* `Notice.level`, `Notice.text`: how severe a notice is, and its words.
* `Notice.isLifecycle`: whether a notice tells that the loops began or ended.
-/

namespace Chip8

/-- An error raised by code of the host: its kind and its words. -/
structure HostFailure where
  kind : String
  text : String
  /-- Whether the error is one of those that the machine itself raises. -/
  own : Bool
  deriving DecidableEq, Repr

/-- A failure as it is named in a notice. -/
def HostFailure.describe (failure : HostFailure) : String := failure.kind ++ ": " ++ failure.text

/-- What a machine has to say. -/
inductive Notice where
  /-- The instruction at a place was carried out. -/
  | executed (place : UInt16) (instruction : Instruction)
  /-- The instruction at a place failed, and nothing will be carried out any more. -/
  | halted (place : UInt16) (fault : Fault)
  /-- The loops begin, with steps and ticks so many times per second. -/
  | starting (steps ticks : Float)
  /-- The loops were stopped from outside. -/
  | stopped (count : Nat)
  /-- The loops ended after a fault. -/
  | loopEnded
  /-- The loops ended because the renderer failed. -/
  | loopLost (failure : HostFailure)
  /-- The host failed when it was told of a fault. -/
  | listenerFailed (failure : HostFailure)
  /-- The window began its program anew. -/
  | restarted

namespace Notice

/-- How severe a notice is. -/
def level : Notice → Level
  | .executed .. => .debug
  | .halted .. | .loopLost _ | .listenerFailed _ => .error
  | .starting .. | .stopped _ | .loopEnded | .restarted => .info

/-- The words of a notice. -/
def text : Notice → String
  | .executed place instruction => "0x" ++ Text.hex 3 place.toNat ++ "  " ++ instruction.text
  | .halted place fault => "Halted at 0x" ++ Text.hex 3 place.toNat ++ ": " ++ fault.message
  | .starting steps ticks =>
    "Starting at " ++ Decimal.fixed 0 steps ++ " steps/s, timers at " ++ Decimal.fixed 0 ticks ++ " Hz"
  | .stopped count => "Stopped after " ++ Nat.repr count ++ " instructions"
  | .loopEnded => "Step loop stopped"
  | .loopLost failure => "Step loop stopped by " ++ failure.describe
  | .listenerFailed failure => "on_error callback raised " ++ failure.describe
  | .restarted => "Reset"

/-- The notice as a message. -/
def message (notice : Notice) : Message := ⟨notice.level, notice.text⟩

/-- Whether a notice tells that the loops began or ended. -/
def isLifecycle : Notice → Bool
  | .starting .. | .stopped _ | .loopEnded | .loopLost _ => true
  | _ => false

end Notice

end Chip8
