import Chip8.Machine.Notice
import Chip8.Pacing.Rate
import Chip8.Pacing.Worker
import Chip8.Processor.Execute

/-!
# The machine

A processor with a host around it: a renderer that is shown the screen, a listener that is told of
faults, and two loops, one for steps and one for ticks of the timers, that are started and stopped
together. The first fault is recorded and halts the machine.

What the host notices of a machine is a list of events in the order in which they happen.

* `Machine`: the state of the machine; `Machine.create`: a new one.
* `Machine.stepper`, `Machine.ticker`, `Machine.running`: its loops, and whether steps are made.
* `Event`, `Turn`: what the host notices, and the result of asking a machine for something.
* `Trouble`, `Refusal`, `StepOutcome`: the ways in which something can go wrong.
-/

namespace Chip8

/-- How the renderer takes the screens that it is shown. -/
inductive Renderer where
  /-- There is none. -/
  | absent
  /-- It keeps what it is shown. -/
  | faithful
  /-- It raises an error each time. -/
  | failing (failure : HostFailure)
  deriving DecidableEq, Repr

/-- How the host takes it to be told that a fault ended the loops. -/
inductive Listener where
  /-- Nobody is told. -/
  | absent
  | attentive
  /-- It hears of the fault, and then raises an error. -/
  | failing (failure : HostFailure)
  deriving DecidableEq, Repr

/-- An error of the machine itself, or one that is taken for such. -/
inductive Trouble where
  /-- The instruction at hand failed. -/
  | fault (f : Fault)
  /-- The machine has been halted by an earlier fault. -/
  | halted (cause : Fault)
  /-- The renderer raised an error of the same kind. -/
  | raised (failure : HostFailure)
  deriving DecidableEq, Repr

/-- The error in words. -/
def Trouble.message : Trouble → String
  | .fault f => f.message
  | .halted cause => "Machine halted: " ++ cause.message
  | .raised failure => failure.text

/-- Why a request to a machine raised an error. -/
inductive Refusal where
  | trouble (t : Trouble)
  | noSuchKey (number : Int)
  | romTooLarge (size : Nat)
  /-- A period is zero, so that no number of times per second can be told for it. -/
  | zeroPeriod
  /-- The request was granted, but the renderer failed to show the result. -/
  | unseen (failure : HostFailure)
  deriving DecidableEq, Repr

/-- What to say about a program that does not fit. -/
def Rom.tooLargeMessage (subject : String) (size : Nat) : String :=
  subject ++ " is " ++ Nat.repr size ++ " bytes, at most " ++ Nat.repr Memory.programLimit
    ++ " fit in memory"

/-- The reason in words. -/
def Refusal.message : Refusal → String
  | .trouble t => t.message
  | .noSuchKey number => "Key must be in 0..15, got " ++ Int.repr number
  | .romTooLarge size => Rom.tooLargeMessage "ROM" size
  | .zeroPeriod => "float division by zero"
  | .unseen failure => failure.text

/-- How a step came out. -/
inductive StepOutcome where
  | done (instruction : Instruction)
  /-- The step was made, but the renderer failed to show its effect. -/
  | unseen (failure : HostFailure)
  /-- The instruction failed just now. -/
  | faulted (fault : Fault)
  /-- The machine has been halted by an earlier fault. -/
  | halted (cause : Fault)
  deriving DecidableEq, Repr

/-- What the host notices of a machine. -/
inductive Event where
  /-- A notice is shown. -/
  | notice (notice : Notice)
  /-- The renderer is shown a screen, and keeps it. -/
  | frame (screen : Screen)
  /-- The listener is told of an error that ended the loops. -/
  | report (trouble : Trouble)

/-- What comes of asking something: the new state, the events on the way, and the result. -/
structure Turn (σ α : Type) where
  state : σ
  events : List Event
  result : α

/-- What stays the same for the life of a machine. -/
structure Settings where
  /-- The key of the random bytes after each reset. -/
  random : RandomKey
  /-- The seconds between two steps of the loop. -/
  stepPeriod : Float
  /-- The seconds between two ticks of the timers. -/
  tickPeriod : Float
  /-- Which notices are shown. -/
  threshold : Level

/-- Whether one of the periods is zero, which is that of an infinite rate. -/
def Settings.zeroPeriod (s : Settings) : Bool := s.stepPeriod == 0.0 || s.tickPeriod == 0.0

/-- The state of a machine. -/
structure Machine where
  settings : Settings
  renderer : Renderer
  listener : Listener
  processor : Processor
  /-- The fault that halted the machine. -/
  fault : Option Fault
  /-- The number of steps since the last reset. -/
  count : Nat
  /-- Whether the loops have been started, and neither ended nor were stopped since. -/
  started : Bool

/-- Why a machine could not be made. -/
inductive SetupError where
  | romTooLarge (size : Nat)
  | badRate (error : RateError)

/-- The reason in words. -/
def SetupError.message : SetupError → String
  | .romTooLarge size => Rom.tooLargeMessage "ROM" size
  | .badRate error => error.message

namespace Machine

/-- The default number of steps per second. -/
def defaultStepRate : Rate := .whole 1000

/-- The default number of ticks of the timers per second. -/
def defaultTickRate : Rate := .whole 60

/-- A new machine at the start of a program, at rest. -/
def create (rom : Rom) (random : RandomKey) (steps ticks : Rate) (threshold : Level)
    (renderer : Renderer) (listener : Listener) : Except SetupError Machine :=
  match Processor.boot? random rom with
  | none => .error (.romTooLarge rom.length)
  | some processor =>
    match steps.check, ticks.check with
    | .error e, _ => .error (.badRate e)
    | .ok _, .error e => .error (.badRate e)
    | .ok stepPeriod, .ok tickPeriod =>
      .ok { settings := { random, stepPeriod, tickPeriod, threshold }
            renderer, listener, processor, fault := none, count := 0, started := false }

/-- The loop that makes the steps. -/
def stepper (m : Machine) : Worker := ⟨m.settings.stepPeriod, m.started⟩

/-- The loop that lets the timers tick. -/
def ticker (m : Machine) : Worker := ⟨m.settings.tickPeriod, m.started⟩

/-- Whether the loops run. One that ticks only does not count. -/
def running (m : Machine) : Bool := m.stepper.running

/-- Whether a fault has halted the machine. -/
def halted (m : Machine) : Bool := m.fault.isSome

/-- The event of a notice, if the threshold lets it through. -/
def say (m : Machine) (notice : Notice) : List Event :=
  if m.settings.threshold.shows notice.level then [.notice notice] else []

/-- Tell the listener of an error. -/
def tell (m : Machine) (trouble : Trouble) : List Event :=
  match m.listener with
  | .absent => []
  | .attentive => [.report trouble]
  | .failing failure => .report trouble :: m.say (.listenerFailed failure)

/-- Show the screen to the renderer: the event, or its failure. -/
def present (m : Machine) : Except HostFailure (List Event) :=
  match m.renderer with
  | .absent => .ok []
  | .faithful => .ok [.frame m.processor.screen]
  | .failing failure => .error failure

end Machine

end Chip8
