import Chip8.Window.Basic

/-!
# Playing in a window

A window handles the events of each turn one after the other and then draws a frame. After the turn in
which it was closed it stops the machine. As with `Machine.start?`, whatever starts the machine has a
limit and may have no answer.

* `WindowEvent`: what can happen to a window.
* `Window.handle?`: what a window does about an event.
* `Window.play?`: all turns from opening to closing.
-/

namespace Chip8

/-- A key of the keyboard: one with a meaning of its own, or one with a name. -/
inductive KeyName where
  | escape
  | f1
  | f2
  | f3
  | typed (text : String)
  deriving DecidableEq, Repr

/-- The key of the keypad that a key of the keyboard stands for. -/
def KeyName.key? : KeyName → Option Key
  | .typed text => Key.ofTyped? text
  | _ => none

/-- What can happen to a window. -/
inductive WindowEvent where
  | quit
  | keyDown (name : KeyName)
  | keyUp (name : KeyName)
  /-- Something that does not matter. -/
  | other
  deriving DecidableEq, Repr

namespace Window

/-- Pass a key on to the machine, if it stands for one of the keypad. -/
def passKey (w : Window) (name : KeyName) (change : Processor → Key → Processor) : Window :=
  match name.key? with
  | some key => { w with machine := { w.machine with processor := change w.machine.processor key } }
  | none => w

/-- Start the machine. -/
def start? (limit : Nat) (w : Window) : Option (Turn Window (Except Refusal Unit)) :=
  (w.machine.start? limit).map fun turn =>
    ⟨w.absorb turn.state turn.events, turn.events, turn.result⟩

/-- Stop the machine. -/
def stop (w : Window) : Turn Window Unit :=
  let turn := w.machine.stop
  ⟨w.absorb turn.state turn.events, turn.events, ()⟩

/-- Make one step of the machine. -/
def step (w : Window) : Turn Window StepOutcome :=
  let turn := w.machine.step
  ⟨w.absorb turn.state turn.events, turn.events, turn.result⟩

/-- Pause the machine, or go on; nothing happens when it is halted. -/
def togglePause? (limit : Nat) (w : Window) : Option (Turn Window (Except Refusal Unit)) :=
  if w.machine.halted then some ⟨w, [], .ok ()⟩
  else if w.paused then { w with paused := false }.start? limit
  else
    let turn := { w with paused := true }.stop
    some ⟨turn.state, turn.events, .ok ()⟩

/-- Begin the program anew and play it. -/
def restart? (limit : Nat) (w : Window) : Option (Turn Window (Except Refusal Unit)) :=
  let cleared := w.machine.reset w.rom
  let fresh := w.absorb cleared.state cleared.events
  match cleared.result with
  | .error e => some ⟨fresh, cleared.events, .error e⟩
  | .ok () => do
    let started ← { fresh with trouble := none, paused := false }.start? limit
    match started.result with
    | .error e => return ⟨started.state, cleared.events ++ started.events, .error e⟩
    | .ok () =>
      return ⟨started.state,
        cleared.events ++ started.events ++ started.state.machine.say .restarted, .ok ()⟩

/-- Show what is inside the machine, or hide it. -/
def toggleInside (w : Window) : Window := { w with showInside := !w.showInside }

/-- Do what is due about an event. The result tells whether the window is to be closed. -/
def handle? (limit : Nat) (w : Window) : WindowEvent → Option (Turn Window (Except Refusal Bool))
  | .quit | .keyDown .escape => some ⟨w, [], .ok true⟩
  | .keyDown .f1 => (w.togglePause? limit).map fun turn => { turn with result := turn.result.map fun _ => false }
  | .keyDown .f2 => (w.restart? limit).map fun turn => { turn with result := turn.result.map fun _ => false }
  | .keyDown .f3 => some ⟨w.toggleInside, [], .ok false⟩
  | .keyDown name => some ⟨w.passKey name Processor.press, [], .ok false⟩
  | .keyUp name => some ⟨w.passKey name Processor.release, [], .ok false⟩
  | .other => some ⟨w, [], .ok false⟩

/-- Handle the events of a turn, all of them also after one that closes the window. -/
def handleAll? (limit : Nat) (w : Window) : List WindowEvent → Option (Turn Window (Except Refusal Bool))
  | [] => some ⟨w, [], .ok false⟩
  | event :: rest => do
    let first ← w.handle? limit event
    match first.result with
    | .error e => return ⟨first.state, first.events, .error e⟩
    | .ok closed =>
      let others ← first.state.handleAll? limit rest
      return ⟨others.state, first.events ++ others.events, others.result.map (closed || ·)⟩

/-- The turns of a window that is open. When no turns are left the window is closed in one more. -/
def turns? (limit : Nat) (w : Window) :
    List (List WindowEvent) → Option (Turn Window (Except Refusal (List Frame)))
  | [] => do
    let turn ← w.handleAll? limit [.quit]
    return ⟨turn.state, turn.events, turn.result.map fun _ => [turn.state.view]⟩
  | events :: rest => do
    let turn ← w.handleAll? limit events
    match turn.result with
    | .error e => return ⟨turn.state, turn.events, .error e⟩
    | .ok true => return ⟨turn.state, turn.events, .ok [turn.state.view]⟩
    | .ok false =>
      let others ← turn.state.turns? limit rest
      return ⟨others.state, turn.events ++ others.events, others.result.map (turn.state.view :: ·)⟩

/-- Open the window, play, and close it. The machine is stopped in the end, whatever happened. -/
def play? (limit : Nat) (w : Window) (batches : List (List WindowEvent)) :
    Option (Turn Window (Except Refusal (List Frame))) := do
  let opened ← w.start? limit
  let played ← match opened.result with
    | .error e => some ⟨opened.state, [], .error e⟩
    | .ok () => opened.state.turns? limit batches
  let closed := played.state.stop
  return ⟨closed.state, opened.events ++ played.events ++ closed.events, played.result⟩

end Window

end Chip8
