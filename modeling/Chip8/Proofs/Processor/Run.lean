import Chip8.Proofs.Processor.Step

/-!
# Runs

A run of the processor is any order of steps, ticks of the timers and key events. A step that fails is
part of a run, and leaves the processor as it is.

* `Action`, `Processor.act`, `Processor.run`: one action, and all of them in a row.
* `Executed`, `Processor.trace`: the completed steps of a run.
* `Processor.along`: what is gathered along a run.
* `act_cases`: an action completes a step, or changes timers and keys only.
* `run_invariant`: what holds at the start and is kept by both kinds of action holds after every run.
-/

namespace Chip8

/-- What can happen to a processor. -/
inductive Action where
  | step
  | tick
  | press (key : Key)
  | release (key : Key)

/-- A completed step: the instruction, and the place it was found at. -/
structure Executed where
  place : UInt16
  instruction : Instruction

namespace Processor

/-- The processor after an action. -/
def act (p : Processor) : Action → Processor
  | .step =>
    match p.step with
    | .ok (next, _) => next
    | .error _ => p
  | .tick => p.tick
  | .press key => p.press key
  | .release key => p.release key

/-- The step that an action completes, if it does. -/
def executed (p : Processor) : Action → List Executed
  | .step =>
    match p.step with
    | .ok (_, instruction) => [⟨p.counter, instruction⟩]
    | .error _ => []
  | _ => []

/-- The processor after a number of actions. -/
def run (p : Processor) : List Action → Processor
  | [] => p
  | action :: rest => (p.act action).run rest

/-- The steps that a number of actions complete, the first one first. -/
def trace (p : Processor) : List Action → List Executed
  | [] => []
  | action :: rest => p.executed action ++ (p.act action).trace rest

/-- What is gathered along a run, action by action. -/
def along {α : Type} (gather : Processor → Action → List α) (p : Processor) : List Action → List α
  | [] => []
  | action :: rest => gather p action ++ (p.act action).along gather rest

variable {p q r : Processor}

theorem run_step {i : Instruction} (h : p.step = .ok (q, i)) (rest : List Action) :
    p.run (.step :: rest) = q.run rest := by
  have hact : p.act .step = q := by
    simp only [act, h]
  rw [run, hact]

theorem trace_step {i : Instruction} (h : p.step = .ok (q, i)) (rest : List Action) :
    p.trace (.step :: rest) = ⟨p.counter, i⟩ :: q.trace rest := by
  have hact : p.act .step = q := by
    simp only [act, h]
  have hone : p.executed .step = [⟨p.counter, i⟩] := by
    simp only [executed, h]
  rw [trace, hact, hone]
  rfl

theorem run_append (p : Processor) (before after : List Action) :
    p.run (before ++ after) = (p.run before).run after := by
  induction before generalizing p with
  | nil => rfl
  | cons action rest ih => exact ih (p.act action)

theorem trace_eq_along (p : Processor) (actions : List Action) :
    p.trace actions = p.along executed actions := by
  induction actions generalizing p with
  | nil => rfl
  | cons action rest ih => exact congrArg (p.executed action ++ ·) (ih (p.act action))

theorem along_append {α : Type} (gather : Processor → Action → List α) (p : Processor)
    (before after : List Action) :
    p.along gather (before ++ after) = p.along gather before ++ (p.run before).along gather after := by
  induction before generalizing p with
  | nil => rfl
  | cons action rest ih =>
    show gather p action ++ (p.act action).along gather (rest ++ after) = _
    rw [ih, ← List.append_assoc]
    rfl

theorem trace_append (p : Processor) (before after : List Action) :
    p.trace (before ++ after) = p.trace before ++ (p.run before).trace after := by
  simp only [trace_eq_along, along_append]

/-- An action completes a step, or it changes nothing but the timers and the keypad. -/
theorem act_cases (p : Processor) (action : Action) :
    (∃ i, p.step = .ok (p.act action, i) ∧ p.executed action = [⟨p.counter, i⟩]) ∨
    (∃ delay sound keypad, p.act action = { p with delay, sound, keypad }) ∧ p.executed action = [] := by
  cases action with
  | step =>
    cases h : p.step with
    | error fault =>
      refine Or.inr ⟨⟨p.delay, p.sound, p.keypad, ?_⟩, ?_⟩
      · simp only [act, h]
      · simp only [executed, h]
    | ok made =>
      refine Or.inl ⟨made.2, ?_, ?_⟩
      · simp only [act, h]
      · simp only [executed, h]
  | tick => exact Or.inr ⟨⟨_, _, _, rfl⟩, rfl⟩
  | press key | release key => exact Or.inr ⟨⟨_, _, _, rfl⟩, rfl⟩

/-- When one thing is gathered for each completed step of a kind, there are as many as such steps. -/
theorem length_along {α : Type} {gather : Processor → Action → List α} {kind : Executed → Bool}
    (h : ∀ p action, (gather p action).length = (p.executed action).countP kind) (p : Processor)
    (actions : List Action) : (p.along gather actions).length = (p.trace actions).countP kind := by
  induction actions generalizing p with
  | nil => rfl
  | cons action rest ih =>
    rw [along, trace, List.length_append, List.countP_append, h, ih]

/-- An invariant of runs, which can speak of the steps completed so far. -/
theorem run_invariant (Inv : Processor → List Executed → Prop) (hstart : Inv p [])
    (hstep : ∀ q r i steps, Inv q steps → q.step = .ok (r, i) → Inv r (steps ++ [⟨q.counter, i⟩]))
    (hquiet : ∀ q steps delay sound keypad, Inv q steps → Inv { q with delay, sound, keypad } steps)
    (actions : List Action) : Inv (p.run actions) (p.trace actions) := by
  have key : ∀ (actions : List Action) q steps, Inv q steps →
      Inv (q.run actions) (steps ++ q.trace actions) := by
    intro actions
    induction actions with
    | nil =>
      intro q steps h
      simpa [run, trace] using h
    | cons action rest ih =>
      intro q steps h
      show Inv ((q.act action).run rest) (steps ++ (q.executed action ++ (q.act action).trace rest))
      rw [← List.append_assoc]
      apply ih
      rcases q.act_cases action with ⟨i, hmade, hone⟩ | ⟨⟨delay, sound, keypad, hact⟩, hnone⟩
      · rw [hone]
        exact hstep q _ i steps h hmade
      · rw [hnone, hact, List.append_nil]
        exact hquiet q steps delay sound keypad h
  simpa using key actions p [] hstart

/-- A program that fits is put into the memory of a fresh processor. -/
theorem boot?_eq_some {random : RandomKey} {rom : Rom} (h : boot? random rom = some p) :
    ∃ memory, p = { fresh random with memory } := by
  obtain ⟨memory, -, rfl⟩ := Option.map_eq_some_iff.mp h
  exact ⟨memory, rfl⟩

/-- A program is refused for its size alone. -/
theorem boot?_eq_none_iff {random : RandomKey} {rom : Rom} :
    boot? random rom = none ↔ 3584 < rom.length := by
  rw [boot?, load?, Option.map_eq_none_iff, Memory.load?]
  split_ifs with h
  · exact ⟨fun _ => h, fun _ => rfl⟩
  · exact ⟨nofun, fun hlarge => absurd hlarge h⟩

theorem exists_boot? (random : RandomKey) {rom : Rom} (h : rom.length ≤ 3584) :
    ∃ p, boot? random rom = some p := by
  refine Option.ne_none_iff_exists'.mp fun hnone => ?_
  exact Nat.not_lt.mpr h (boot?_eq_none_iff.mp hnone)

theorem fits_of_boot? {random : RandomKey} {rom : Rom} (h : boot? random rom = some p) :
    rom.length ≤ 3584 := by
  rw [← Nat.not_lt, ← @boot?_eq_none_iff random rom, h]
  nofun

end Processor

end Chip8
