import Chip8.Machine.Run
import Mathlib.Tactic.SplitIfs

/-!
# What requests do

`Machine.step`, `Machine.loopStep`, `Machine.reset` and `Machine.start?`, said once for each of the ways in
which they can come out.

* `Machine.advanced`, `Machine.broken`, `Machine.restarted`: the machine after a completed step, after a fault
  and after a reset.
* `workers_begun`, `workers_rest`: the loops are workers, which are started and stopped together.
* `running_eq_false_iff`: the two ways in which the loops are at rest, and what follows from each.
* `Renderer.failure?`, `Machine.view`, `Machine.lost?`, `Machine.kept`: what becomes of a screen that is
  shown, and of the screen after an instruction.
* `step_of_*`, `loopStep_of_*`: a step is refused, fails, is shown if it has to be, or is lost on the
  renderer.
* `reset_of_*`, `start?_of_*`: the same for the other requests that have more than one outcome.
* `create_eq_ok_iff`: what a new machine is.
-/

namespace Chip8

/-- The error that the renderer raises when it is shown a screen. -/
def Renderer.failure? : Renderer → Option HostFailure
  | .failing failure => some failure
  | _ => none

namespace Machine

variable {m : Machine} {p q : Processor} {i : Instruction} {f cause : Fault} {failure : HostFailure}
  {rom : Rom} {limit : Nat}

/-- The machine after a completed step. -/
def advanced (m : Machine) (q : Processor) : Machine := { m with processor := q, count := m.count + 1 }

/-- The machine after a fault. -/
def broken (m : Machine) (f : Fault) : Machine := { m with fault := some f }

/-- The machine after a reset to a processor. -/
def restarted (m : Machine) (p : Processor) : Machine :=
  { m with processor := p, fault := none, count := 0, started := false }

/-! ## The loops as workers -/

/-- The loops begin by being started, both of them. -/
theorem workers_begun (m : Machine) :
    m.begun.stepper = m.stepper.start ∧ m.begun.ticker = m.ticker.start := by
  unfold begun
  dsimp only
  split_ifs <;> exact ⟨rfl, rfl⟩

/-- The loops come to rest by being stopped, both of them. -/
theorem workers_rest (m : Machine) : m.rest.stepper = m.stepper.stop ∧ m.rest.ticker = m.ticker.stop :=
  ⟨rfl, rfl⟩

/-- The loops that make no steps are those that were not started, or that have broken down. -/
theorem running_eq_false_iff : m.running = false ↔ m.started = false ∨ m.stepper.breaksDown = true := by
  have hworker : m.running = (m.started && !m.stepper.breaksDown) := rfl
  rw [hworker]
  cases m.started <;> simp

/-- Loops that were not started make no steps. -/
theorem running_of_not_started (h : m.started = false) : m.running = false :=
  running_eq_false_iff.mpr (.inl h)

/-- A loop that breaks down makes no steps. -/
theorem running_of_breaksDown (h : m.stepper.breaksDown = true) : m.running = false :=
  running_eq_false_iff.mpr (.inr h)

/-- Loops that wait are at rest only when they were not started. -/
theorem started_of_waits (hwaits : m.stepper.breaksDown = false) (hrest : m.running = false) :
    m.started = false :=
  (running_eq_false_iff.mp hrest).resolve_right (by simp [hwaits])

theorem rest_of_not_started (h : m.started = false) : m.rest = m := by
  unfold rest
  rw [← h]

/-- Only the settings matter for whether the loop breaks down. -/
theorem breaksDown_of_settings {last : Machine} (h : last.settings = m.settings) :
    last.stepper.breaksDown = m.stepper.breaksDown := by
  rw [Worker.breaksDown, stepper, h]
  rfl

@[simp] theorem running_rest (m : Machine) : m.rest.running = false := rfl

@[simp] theorem running_advanced (m : Machine) (q : Processor) : (m.advanced q).running = m.running := rfl

@[simp] theorem running_broken (m : Machine) (f : Fault) : (m.broken f).running = m.running := rfl

@[simp] theorem running_restarted (m : Machine) (p : Processor) : (m.restarted p).running = false := rfl

@[simp] theorem running_tick (m : Machine) : m.tick.running = m.running := rfl

/-- When the loops begin, the timers tick if the ticker acts at its start. -/
theorem processor_begun (m : Machine) :
    m.begun.processor = if m.ticker.actsAtStart then m.processor.tick else m.processor := by
  unfold begun
  dsimp only
  split_ifs <;> rfl

/-- Where the timers do not tick at a start, the ticker is still at work. -/
theorem begun_eq (m : Machine) : m.begun = { m with processor := m.begun.processor, started := true } := by
  unfold begun
  dsimp only
  split_ifs <;> rfl

/-- A worker that has not been started acts when it is. -/
theorem begun_of_not_started (h : m.started = false) : m.begun = { m.tick with started := true } := by
  have hacts : m.ticker.actsAtStart = true := by
    rw [Worker.actsAtStart, Worker.running, ticker, h]
    rfl
  rw [begun, if_pos hacts]

/-! ## Screens that are shown -/

/-- The screen, if the renderer keeps what it is shown. -/
def view (m : Machine) : List Event :=
  match m.renderer with
  | .faithful => [.frame m.processor.screen]
  | _ => []

/-- The failure of the renderer to show what an instruction did, if it is asked to and fails. -/
def lost? (m : Machine) (i : Instruction) : Option HostFailure :=
  if i.changesScreen then m.renderer.failure? else none

/-- The screen after an instruction, if the renderer is shown it and keeps it. -/
def kept (m : Machine) (i : Instruction) : List Event :=
  if i.changesScreen then m.view else []

theorem present_of_shown (h : m.renderer.failure? = none) : m.present = .ok m.view := by
  unfold present view
  cases hrenderer : m.renderer with
  | failing failure => simp [Renderer.failure?, hrenderer] at h
  | _ => rfl

theorem present_of_lost (h : m.renderer.failure? = some failure) : m.present = .error failure := by
  unfold present
  cases hrenderer : m.renderer with
  | failing other =>
    rw [hrenderer] at h
    cases h
    rfl
  | _ => simp [Renderer.failure?, hrenderer] at h

theorem mem_say {notice : Notice} {event : Event} (h : event ∈ m.say notice) :
    event = .notice notice := by
  unfold say at h
  split_ifs at h
  · exact List.mem_singleton.mp h
  · exact absurd h List.not_mem_nil

theorem mem_view {event : Event} (h : event ∈ m.view) : event = .frame m.processor.screen := by
  unfold view at h
  cases hrenderer : m.renderer with
  | faithful =>
    rw [hrenderer] at h
    exact List.mem_singleton.mp h
  | _ =>
    rw [hrenderer] at h
    exact absurd h List.not_mem_nil

theorem mem_kept {event : Event} (h : event ∈ m.kept i) : event = .frame m.processor.screen := by
  unfold kept at h
  split_ifs at h
  · exact mem_view h
  · exact absurd h List.not_mem_nil

/-- A renderer that fails keeps nothing. -/
theorem kept_of_lost (q : Processor) (h : m.lost? i = some failure) : (m.advanced q).kept i = [] := by
  have hlost : m.renderer.failure? = some failure := by
    unfold lost? at h
    split_ifs at h
    exact h
  unfold kept view
  cases hrenderer : (m.advanced q).renderer with
  | failing other => exact ite_self _
  | _ =>
    have hother : m.renderer.failure? = none := congrArg Renderer.failure? hrenderer
    rw [hother] at hlost
    cases hlost

/-! ## The step of a host -/

theorem step_of_halted (h : m.fault = some cause) : m.step = ⟨m, [], .halted cause⟩ := by
  rw [step, h]

theorem step_of_error (h : m.fault = none) (hstep : m.processor.step = .error f) :
    m.step = ⟨m.broken f, m.say (.halted m.processor.counter f), .faulted f⟩ := by
  unfold step
  split
  · simp_all
  · simp only [hstep]
    rfl

theorem step_of_ok (h : m.fault = none) (hstep : m.processor.step = .ok (q, i)) :
    m.step =
      if i.changesScreen then
        match (m.advanced q).present with
        | .ok shown => ⟨m.advanced q, m.say (.executed m.processor.counter i) ++ shown, .done i⟩
        | .error failure => ⟨m.advanced q, m.say (.executed m.processor.counter i), .unseen failure⟩
      else ⟨m.advanced q, m.say (.executed m.processor.counter i), .done i⟩ := by
  unfold step
  split
  · simp_all
  · simp only [hstep]
    rfl

theorem step_of_shown (h : m.fault = none) (hstep : m.processor.step = .ok (q, i))
    (hshown : m.lost? i = none) :
    m.step = ⟨m.advanced q, m.say (.executed m.processor.counter i) ++ (m.advanced q).kept i,
      .done i⟩ := by
  rw [step_of_ok h hstep]
  unfold lost? at hshown
  unfold kept
  split_ifs at hshown ⊢ with hscreen
  · rw [present_of_shown (m := m.advanced q) hshown]
  · rw [List.append_nil]

theorem step_of_lost (h : m.fault = none) (hstep : m.processor.step = .ok (q, i))
    (hlost : m.lost? i = some failure) :
    m.step = ⟨m.advanced q, m.say (.executed m.processor.counter i), .unseen failure⟩ := by
  rw [step_of_ok h hstep]
  unfold lost? at hlost
  split_ifs at hlost ⊢ with hscreen
  rw [present_of_lost (m := m.advanced q) hlost]

/-! ## The step of the loop -/

theorem loopStep_of_halted (h : m.fault = some cause) :
    m.loopStep = (m.rest, m.rest.say .loopEnded ++ m.rest.tell (.halted cause)) := by
  rw [loopStep, step_of_halted h]
  rfl

theorem loopStep_of_error (h : m.fault = none) (hstep : m.processor.step = .error f) :
    m.loopStep = ((m.broken f).rest, m.say (.halted m.processor.counter f) ++
      (m.broken f).rest.say .loopEnded ++ (m.broken f).rest.tell (.fault f)) := by
  rw [loopStep, step_of_error h hstep]

theorem loopStep_of_shown (h : m.fault = none) (hstep : m.processor.step = .ok (q, i))
    (hshown : m.lost? i = none) :
    m.loopStep =
      (m.advanced q, m.say (.executed m.processor.counter i) ++ (m.advanced q).kept i) := by
  rw [loopStep, step_of_shown h hstep hshown]

theorem loopStep_of_lost (h : m.fault = none) (hstep : m.processor.step = .ok (q, i))
    (hlost : m.lost? i = some failure) :
    m.loopStep = ((m.advanced q).rest, m.say (.executed m.processor.counter i) ++
      (m.advanced q).rest.loss failure) := by
  rw [loopStep, step_of_lost h hstep hlost]

/-! ## Resets and starts -/

theorem reset_of_tooLarge (hboot : Processor.boot? m.settings.random rom = none) :
    m.reset rom = ⟨m.rest, m.stop.events, .error (.romTooLarge rom.length)⟩ := by
  rw [reset, hboot]
  rfl

theorem reset_of_shown (hboot : Processor.boot? m.settings.random rom = some p)
    (hshown : m.renderer.failure? = none) :
    m.reset rom = ⟨m.restarted p, m.stop.events ++ (m.restarted p).view, .ok ()⟩ := by
  have hpresent := present_of_shown (m := m.restarted p) hshown
  unfold reset
  rw [hboot]
  unfold restarted at hpresent ⊢
  simp only [stop, rest, hpresent]

theorem reset_of_lost (hboot : Processor.boot? m.settings.random rom = some p)
    (hlost : m.renderer.failure? = some failure) :
    m.reset rom = ⟨m.restarted p, m.stop.events, .error (.unseen failure)⟩ := by
  have hpresent := present_of_lost (m := m.restarted p) hlost
  unfold reset
  rw [hboot]
  unfold restarted at hpresent ⊢
  simp only [stop, rest, hpresent]

/-- A reset leaves the same machine behind whether the renderer fails or not. -/
theorem reset_state (hboot : Processor.boot? m.settings.random rom = some p) :
    (m.reset rom).state = m.restarted p := by
  cases hlost : m.renderer.failure? with
  | none => rw [reset_of_shown hboot hlost]
  | some failure => rw [reset_of_lost hboot hlost]

theorem start?_of_halted (h : m.fault = some cause) :
    m.start? limit = some ⟨m, [], .error (.trouble (.halted cause))⟩ := by
  rw [start?, h]

theorem start?_of_running (h : m.fault = none) (hrunning : m.running = true) :
    m.start? limit = some ⟨m, [], .ok ()⟩ := by
  unfold start?
  split
  · simp_all
  · rw [if_pos hrunning]

theorem start?_of_zeroPeriod (h : m.fault = none) (hrest : m.running = false)
    (hzero : m.settings.zeroPeriod = true) : m.start? limit = some ⟨m, [], .error .zeroPeriod⟩ := by
  unfold start?
  split
  · simp_all
  · rw [if_neg (by simp [hrest]), if_pos hzero]

theorem start?_of_rest (h : m.fault = none) (hrest : m.running = false)
    (hrates : m.settings.zeroPeriod = false) :
    m.start? limit =
      (m.begun.begin? limit).map fun made =>
        ⟨made.1, m.say (.starting (1.0 / m.settings.stepPeriod) (1.0 / m.settings.tickPeriod)) ++ made.2,
          .ok ()⟩ := by
  unfold start?
  split
  · simp_all
  · rw [if_neg (by simp [hrest]), if_neg (by simp [hrates])]

/-! ## New machines -/

theorem eq_ok_of_toOption {ε α : Type} {result : Except ε α} {a : α} (h : result.toOption = some a) :
    result = .ok a := by
  cases result with
  | error e => cases h
  | ok b =>
    cases h
    rfl

/-- A machine can be made when the program fits and both rates can be used. -/
theorem create_eq_ok_iff {random : RandomKey} {steps ticks : Rate} {threshold : Level}
    {renderer : Renderer} {listener : Listener} :
    create rom random steps ticks threshold renderer listener = .ok m ↔
      ∃ processor stepPeriod tickPeriod, Processor.boot? random rom = some processor ∧
        steps.check = .ok stepPeriod ∧ ticks.check = .ok tickPeriod ∧
        m = { settings := { random, stepPeriod, tickPeriod, threshold }
              renderer, listener, processor, fault := none, count := 0, started := false } := by
  unfold create
  cases Processor.boot? random rom with
  | none => simp
  | some processor =>
    cases steps.check with
    | error e => simp
    | ok stepPeriod =>
      cases ticks.check with
      | error e => simp
      | ok tickPeriod => simp [eq_comm]

theorem at_rest_of_create {random : RandomKey} {steps ticks : Rate} {threshold : Level}
    {renderer : Renderer} {listener : Listener}
    (h : create rom random steps ticks threshold renderer listener = .ok m) :
    m.fault = none ∧ m.running = false := by
  obtain ⟨processor, stepPeriod, tickPeriod, -, -, -, rfl⟩ := create_eq_ok_iff.mp h
  exact ⟨rfl, rfl⟩

end Machine

end Chip8
