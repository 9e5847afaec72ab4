import Chip8.Machine.Basic

/-!
# Driving a machine

What a host can ask of a machine. Steps and ticks can also come from the loops of the machine. How these
share the time is settled here: when the loops begin, the timers tick once at once. Then a loop whose
steps lie ten seconds or more apart makes one step and waits, or breaks down at the wait; a faster one
makes steps until a fault or the renderer ends it. Since it may go on for ever, `start` is given a limit,
and has no answer when the loop is still running after so many steps.

* `Machine.step`, `Machine.tick`, `Machine.press`, `Machine.release`, `Machine.reset`,
  `Machine.start?`, `Machine.stop`: the requests one by one.
* `Machine.loopStep`, `Machine.loop?`: a step made by the loop, and all of them until it ends.
* `Request`, `Machine.perform?`: any of the requests.
-/

namespace Chip8

namespace Machine

/-- Make one step, unless the machine is halted. A fault is recorded, and the processor keeps the state
before the instruction. After an instruction that changes the screen the renderer is shown the
result. -/
def step (m : Machine) : Turn Machine StepOutcome :=
  match m.fault with
  | some cause => ⟨m, [], .halted cause⟩
  | none =>
    let place := m.processor.counter
    match m.processor.step with
    | .error fault => ⟨{ m with fault := some fault }, m.say (.halted place fault), .faulted fault⟩
    | .ok (processor, instruction) =>
      let next := { m with processor, count := m.count + 1 }
      let said := m.say (.executed place instruction)
      if instruction.changesScreen then
        match next.present with
        | .ok shown => ⟨next, said ++ shown, .done instruction⟩
        | .error failure => ⟨next, said, .unseen failure⟩
      else ⟨next, said, .done instruction⟩

/-- One tick of the timers. -/
def tick (m : Machine) : Machine := { m with processor := m.processor.tick }

/-- Change the key with a number, if there is one. -/
def withKey (m : Machine) (number : Int) (change : Processor → Key → Processor) :
    Turn Machine (Except Refusal Unit) :=
  match Key.ofInt? number with
  | none => ⟨m, [], .error (.noSuchKey number)⟩
  | some key => ⟨{ m with processor := change m.processor key }, [], .ok ()⟩

/-- A key goes down. -/
def press (m : Machine) (number : Int) : Turn Machine (Except Refusal Unit) :=
  m.withKey number Processor.press

/-- A key goes up. -/
def release (m : Machine) (number : Int) : Turn Machine (Except Refusal Unit) :=
  m.withKey number Processor.release

/-- The loops come to rest. -/
def rest (m : Machine) : Machine := { m with started := false }

/-- Stop the loops. Nothing is said of loops that make no steps. -/
def stop (m : Machine) : Turn Machine Unit :=
  ⟨m.rest, if m.running then m.say (.stopped m.count) else [], ()⟩

/-- Stop the loops, and begin a program with nothing left of the one before. A program that does not fit
is refused after the stop. -/
def reset (m : Machine) (rom : Rom) : Turn Machine (Except Refusal Unit) :=
  let stopped := m.stop
  match Processor.boot? m.settings.random rom with
  | none => ⟨stopped.state, stopped.events, .error (.romTooLarge rom.length)⟩
  | some processor =>
    let next := { stopped.state with processor, fault := none, count := 0 }
    match next.present with
    | .ok shown => ⟨next, stopped.events ++ shown, .ok ()⟩
    | .error failure => ⟨next, stopped.events, .error (.unseen failure)⟩

/-- What is said when the loop ends because the renderer failed. An error of the machine's own kind is taken for
one of the machine, and the listener hears of it. -/
def loss (m : Machine) (failure : HostFailure) : List Event :=
  if failure.own then m.say .loopEnded ++ m.tell (.raised failure) else m.say (.loopLost failure)

/-- A step made by the loop. An error ends the loops; the listener hears of those of the machine. -/
def loopStep (m : Machine) : Machine × List Event :=
  let made := m.step
  let ended := made.state.rest
  match made.result with
  | .done _ => (made.state, made.events)
  | .faulted fault => (ended, made.events ++ ended.say .loopEnded ++ ended.tell (.fault fault))
  | .halted cause => (ended, made.events ++ ended.say .loopEnded ++ ended.tell (.halted cause))
  | .unseen failure => (ended, made.events ++ ended.loss failure)

/-- Steps made by the loop until it ends, if it ends within the limit. -/
def loop? (limit : Nat) (m : Machine) : Option (Machine × List Event) :=
  if m.started then
    match limit with
    | 0 => none
    | limit + 1 =>
      let made := m.loopStep
      (loop? limit made.1).map fun (last, events) => (last, made.2 ++ events)
  else some (m, [])

/-- Whether the loop waits after its first step. -/
def isSlow (m : Machine) : Bool := Pacing.isSlow m.settings.stepPeriod

/-- The machine when its loops begin. The ticker may still be at work, although no steps are made; else the
timers tick at once. -/
def begun (m : Machine) : Machine :=
  let ticked := if m.ticker.actsAtStart then m.tick else m
  { ticked with started := true }

/-- What the loop does from the moment it begins. -/
def begin? (limit : Nat) (m : Machine) : Option (Machine × List Event) :=
  if m.isSlow then some m.loopStep else m.loop? limit

/-- Start the loops, unless the machine is halted; nothing happens if they run already. The rates are told
first, which fails if there is a period of zero. -/
def start? (limit : Nat) (m : Machine) : Option (Turn Machine (Except Refusal Unit)) :=
  match m.fault with
  | some cause => some ⟨m, [], .error (.trouble (.halted cause))⟩
  | none =>
    if m.running then some ⟨m, [], .ok ()⟩
    else if m.settings.zeroPeriod then some ⟨m, [], .error .zeroPeriod⟩
    else
      let said := m.say (.starting (1.0 / m.settings.stepPeriod) (1.0 / m.settings.tickPeriod))
      (begin? limit m.begun).map fun (last, events) => ⟨last, said ++ events, .ok ()⟩

/-- The keys that are held down, in ascending order. -/
def pressedKeys (m : Machine) : List Key := m.processor.keypad.pressed

end Machine

/-- The instruction of a step, or why there is none. -/
def StepOutcome.toExcept : StepOutcome → Except Refusal Instruction
  | .done instruction => .ok instruction
  | .unseen failure => .error (.unseen failure)
  | .faulted fault => .error (.trouble (.fault fault))
  | .halted cause => .error (.trouble (.halted cause))

/-- What a host can ask of a machine. -/
inductive Request where
  | step
  | tick
  | press (number : Int)
  | release (number : Int)
  | reset (rom : Rom)
  | start
  | stop
  deriving DecidableEq, Repr

/-- Carry out a request; the result of a step is its instruction. A start has no answer when the loop is
still running after `limit` steps. -/
def Machine.perform? (limit : Nat) (m : Machine) :
    Request → Option (Turn Machine (Except Refusal (Option Instruction)))
  | .step => some ⟨m.step.state, m.step.events, m.step.result.toExcept.map some⟩
  | .tick => some ⟨m.tick, [], .ok none⟩
  | .press number => some (silent (m.press number))
  | .release number => some (silent (m.release number))
  | .reset rom => some (silent (m.reset rom))
  | .start => (m.start? limit).map silent
  | .stop => some ⟨m.stop.state, m.stop.events, .ok none⟩
where
  /-- A turn without an instruction as its result. -/
  silent (turn : Turn Machine (Except Refusal Unit)) :
      Turn Machine (Except Refusal (Option Instruction)) :=
    ⟨turn.state, turn.events, turn.result.map fun _ => none⟩

end Chip8
