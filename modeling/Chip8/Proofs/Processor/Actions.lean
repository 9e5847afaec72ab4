import Chip8.Proofs.Processor.Influence
import Chip8.Proofs.Processor.Run
import Mathlib.Logic.Function.Iterate

/-!
# Actions in a row

Of the actions in a run the steps are the business of the processor. Ticks and keys come from outside: each of
them is an influence, and so are all of them together. Of a key it is enough to know its latest move.

* `Action.isStep`, `Action.isTick`, `Action.move?`, `Action.influence`: what an action is.
* `Action.stepCount`, `Action.tickCount`, `Action.moves`: what there is among actions.
* `Action.outside`, `Action.ofOutside`: the actions from outside, and what they change.
* `Action.holds_ofOutside`: the latest move of a key says whether it is down.
* `Processor.run_of_outside`: without steps a run is what its ticks and keys are.
-/

namespace Chip8

namespace Action

variable {a b : Action}

def isStep : Action → Bool
  | .step => true
  | _ => false

def isTick : Action → Bool
  | .tick => true
  | _ => false

/-- The move of a key: down, up, or none. -/
def move? (key : Key) : Action → Option Bool
  | .press other => if other = key then some true else none
  | .release other => if other = key then some false else none
  | _ => none

/-- The change that comes from outside; a step is none. -/
def influence : Action → Influence
  | .step => ⟨id, id, id⟩
  | .tick => .tick
  | .press key => .key key true
  | .release key => .key key false

theorem eq_step (h : a.isStep = true) : a = .step := by
  cases a with
  | step => rfl
  | _ => cases h

theorem eq_of_move? {key : Key} {down : Bool} (ha : a.move? key = some down)
    (hb : b.move? key = some down) : a = b := by
  cases a <;> cases b <;> simp_all [move?]

/-! ## Many actions -/

/-- The steps among actions. -/
def stepCount (actions : List Action) : Nat := actions.countP isStep

/-- The ticks among actions. -/
def tickCount (actions : List Action) : Nat := actions.countP isTick

/-- The moves of a key among actions. -/
def moves (key : Key) (actions : List Action) : List Bool := actions.filterMap (move? key)

/-- The actions that are no steps. -/
def outside (actions : List Action) : List Action := actions.filter fun a => !a.isStep

theorem stepCount_step (rest : List Action) : stepCount (.step :: rest) = stepCount rest + 1 :=
  List.countP_cons_of_pos rfl

theorem stepCount_cons (ha : a.isStep = false) (rest : List Action) :
    stepCount (a :: rest) = stepCount rest :=
  List.countP_cons_of_neg (by simp [ha])

theorem tickCount_cons (a : Action) (rest : List Action) :
    tickCount (a :: rest) = tickCount rest + if a.isTick then 1 else 0 :=
  List.countP_cons

theorem stepCount_append (before after : List Action) :
    stepCount (before ++ after) = stepCount before + stepCount after :=
  List.countP_append

theorem tickCount_append (before after : List Action) :
    tickCount (before ++ after) = tickCount before + tickCount after :=
  List.countP_append

theorem stepCount_ticks (n : Nat) : stepCount (List.replicate n .tick) = 0 := by
  rw [stepCount, List.countP_replicate]
  rfl

theorem tickCount_ticks (n : Nat) : tickCount (List.replicate n .tick) = n := by
  rw [tickCount, List.countP_replicate]
  rfl

theorem outside_step (rest : List Action) : outside (.step :: rest) = outside rest := rfl

theorem outside_cons (ha : a.isStep = false) (rest : List Action) :
    outside (a :: rest) = a :: outside rest :=
  List.filter_cons_of_pos (by simp [ha])

theorem tick_mem_iff {actions : List Action} : .tick ∈ actions ↔ 0 < tickCount actions := by
  rw [tickCount, List.countP_pos_iff]
  constructor
  · exact fun hmem => ⟨.tick, hmem, rfl⟩
  · rintro ⟨a, hmem, ha⟩
    cases a with
    | tick => exact hmem
    | _ => cases ha

theorem mem_iff_of_move? {actions : List Action} {key : Key} {down : Bool}
    (ha : a.move? key = some down) : a ∈ actions ↔ down ∈ moves key actions := by
  rw [moves, List.mem_filterMap]
  constructor
  · exact fun hmem => ⟨a, hmem, ha⟩
  · rintro ⟨b, hmem, hb⟩
    rwa [eq_of_move? ha hb]

/-! ## What comes from outside -/

/-- What the ticks and keys among actions change. -/
def ofOutside (actions : List Action) : Influence where
  delay := Processor.countDown^[tickCount actions]
  sound := Processor.countDown^[tickCount actions]
  keypad pad := actions.foldl (fun pad a => a.influence.keypad pad) pad

theorem ofOutside_cons (a : Action) (rest : List Action) (p : Processor) :
    (ofOutside (a :: rest)).on p = (ofOutside rest).on (a.influence.on p) := by
  simp only [Influence.on, ofOutside, tickCount_cons]
  cases a <;> rfl

/-- The latest move of a key says whether it is down. -/
theorem holds_ofOutside (key : Key) (actions : List Action) (pad : Keypad) :
    ((ofOutside actions).keypad pad).holds key = (moves key actions).getLastD (pad.holds key) := by
  induction actions generalizing pad with
  | nil => rfl
  | cons a rest ih =>
    show ((ofOutside rest).keypad (a.influence.keypad pad)).holds key = _
    rw [ih]
    unfold moves
    rw [List.filterMap_cons]
    cases a with
    | step | tick => rfl
    | press other | release other =>
      simp only [influence, Influence.key, Keypad.holds_put, move?]
      split_ifs
      · rw [List.getLastD_cons]
      · rfl

end Action

namespace Processor

open Chip8.Action (ofOutside)

variable {p : Processor} {a : Action}

theorem act_of_outside (ha : a.isStep = false) : p.act a = a.influence.on p := by
  cases a with
  | step => cases ha
  | _ => rfl

/-- Without steps a run is what its ticks and keys are. -/
theorem run_of_outside {actions : List Action} (h : .step ∉ actions) :
    p.run actions = (ofOutside actions).on p := by
  induction actions generalizing p with
  | nil => rfl
  | cons a rest ih =>
    obtain ⟨ha, hrest⟩ := List.ne_and_not_mem_of_not_mem_cons h
    have houtside : a.isStep = false := by
      cases a with
      | step => exact absurd rfl ha
      | _ => rfl
    rw [run, ih hrest, act_of_outside houtside, Action.ofOutside_cons]

end Processor

end Chip8
