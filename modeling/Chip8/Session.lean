import Chip8.CommandLine.Options
import Chip8.Window.Play

/-!
# Sessions

A session is a run of the program from the command line: a ROM is loaded into a machine and played, either
in a window or, without one, for a number of steps as fast as possible. In the latter case the timers
tick after every so many steps, so that they stand to the steps as the two rates do. How a picture comes
into a file is the business of the host.

* `Machine.runSteps`: a run without a window.
* `Session.Saver`: how the host saves pictures.
* `Session.run?`: a session, given what was asked for and what the world holds.
* `Session.Outcome`: what is left of a session when it ends.
-/

namespace Chip8

namespace Machine

/-- Make steps until a fault, with one tick of the timers after every `perTick` of them. The steps made
before are counted to know when the next tick is due. The result tells whether all steps were made,
unless the renderer failed with an error that is not taken for one of the machine. -/
def runSteps (perTick : Nat) : (steps made : Nat) → Machine → Turn Machine (Except HostFailure Bool)
  | 0, _, m => ⟨m, [], .ok true⟩
  | steps + 1, made, m =>
    let turn := m.step
    match turn.result with
    | .faulted _ | .halted _ => ⟨turn.state, turn.events, .ok false⟩
    | .unseen failure => ⟨turn.state, turn.events, if failure.own then .ok false else .error failure⟩
    | .done _ =>
      let next := if (made + 1) % perTick = 0 then turn.state.tick else turn.state
      let others := runSteps perTick steps (made + 1) next
      ⟨others.state, turn.events ++ others.events, others.result⟩

/-- Make steps without a window, none if their number is negative. -/
def runHeadless (perTick : Nat) (steps : Int) (m : Machine) : Turn Machine (Except HostFailure Bool) :=
  runSteps perTick steps.toNat 0 m

end Machine

namespace Session

/-- What ends a session early. -/
inductive Crash where
  | seedTooLarge
  | setup (error : SetupError)
  /-- There is no number of steps per tick. -/
  | ratio (error : Decimal.NotFinite)
  | refused (refusal : Refusal)
  /-- The host failed to save the picture. -/
  | unsaved (failure : HostFailure)

/-- The reason in words. -/
def Crash.message : Crash → String
  | .seedTooLarge => "Python int too large to convert to C long"
  | .setup error => error.message
  | .ratio error => error.message
  | .refused refusal => refusal.message
  | .unsaved failure => failure.text

/-- What is left of a session that came to its end. -/
structure Outcome where
  exitCode : Nat
  /-- The messages that were shown. -/
  messages : List Message
  /-- The machine in its last state, if there was one. -/
  machine : Option Machine
  /-- The picture that was saved, and its file. -/
  picture : Option (String × Picture)

/-- How the host takes it that a picture is to be saved in the file with a name. -/
abbrev Saver := String → Picture → Except HostFailure Unit

/-- What a file is found to be. -/
inductive Found where
  /-- There is no such file, or it is a directory. -/
  | nothing
  | bytes (content : Rom)

/-- The messages among events. -/
def messagesOf (events : List Event) : List Message :=
  events.filterMap fun
    | .notice notice => some notice.message
    | _ => none

/-- A message of the session itself, if the threshold lets it through. -/
def say (o : Options) (level : Level) (text : String) : List Message :=
  if o.level.shows level then [⟨level, text⟩] else []

/-- The number of steps for each tick of the timers, the nearest to the ratio of the rates but never
zero. -/
def stepsPerTick (rate : Rate) : Except Decimal.NotFinite Nat :=
  (Decimal.Binary.round (rate.toFloat / Machine.defaultTickRate.toFloat)).map fun n => max 1 n.toNat

/-- The last picture of a run without a window, if one is asked for under a name. -/
def screenshotOf (save : Saver) (o : Options) (m : Machine) : Except Crash (Option (String × Picture)) :=
  match o.screenshot with
  | none => .ok none
  | some file =>
    if file.isEmpty then .ok none
    else
      let picture := Picture.screenshot m.processor.screen o.scale o.scheme o.grid
      match save file picture with
      | .ok () => .ok (some (file, picture))
      | .error failure => .error (.unsaved failure)

/-- A run without a window. -/
def runHeadless (save : Saver) (o : Options) (m : Machine) (said : List Message) : Except Crash Outcome := do
  let perTick ← (stepsPerTick o.rate).mapError .ratio
  let turn := m.runHeadless perTick o.steps
  let complete ← turn.result.mapError fun failure => .refused (.unseen failure)
  let picture ← screenshotOf save o turn.state
  let saved := match picture with
    | some (file, _) => say o .info ("Screenshot saved: " ++ file)
    | none => []
  return {
    exitCode := if complete then 0 else 1
    messages := said ++ messagesOf turn.events ++ saved
    machine := some turn.state
    picture }

/-- A run in a window, in which the given events happen turn by turn. -/
def runWindow? (limit : Nat) (o : Options) (rom : Rom) (m : Machine) (said : List Message)
    (batches : List (List WindowEvent)) : Option (Except Crash Outcome) :=
  let window := Window.attach m rom o.scale o.scheme o.grid
  (window.play? limit batches).map fun turn =>
    match turn.result with
    | .error refusal => .error (.refused refusal)
    | .ok _ => .ok {
        exitCode := if turn.state.trouble.isSome then 1 else 0
        messages := said ++ messagesOf turn.events
        machine := some turn.state.machine
        picture := none }

/-- The session ends because there is no program to play. -/
def unplayable (o : Options) (reason : String) : Outcome where
  exitCode := 1
  messages := say o .error reason
  machine := none
  picture := none

/-- A session with the file that was found under the name of the program, and the events that will
happen to the window. The limit is that of `Machine.start?`. -/
def run? (limit : Nat) (save : Saver) (o : Options) (found : Found) (batches : List (List WindowEvent)) :
    Option (Except Crash Outcome) :=
  match found with
  | .nothing => some (.ok (unplayable o ("ROM '" ++ o.rom ++ "' not found")))
  | .bytes rom =>
    if Memory.programLimit < rom.length then
      some (.ok (unplayable o (Rom.tooLargeMessage ("ROM '" ++ o.rom ++ "'") rom.length)))
    else
      match RandomKey.ofSeed? o.seed with
      | none => some (.error .seedTooLarge)
      | some random =>
        match Machine.create rom random o.rate Machine.defaultTickRate o.level .absent .absent with
        | .error e => some (.error (.setup e))
        | .ok m =>
          let said := say o .info
            ("Loaded " ++ o.rom ++ " (" ++ Nat.repr rom.length ++ " bytes)")
          if o.headless then some (runHeadless save o m said) else runWindow? limit o rom m said batches

end Session

end Chip8
