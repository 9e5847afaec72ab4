import Chip8.Proofs.Machine.History
import Chip8.Proofs.Processor.Actions

/-!
# The order of steps, ticks and keys

Steps, ticks and keys reach a machine in an order that nobody controls. It matters only where an instruction
at hand has to do with the timers, or with the very key that goes down or up.

* `Machine.act`: the turn of an action; `Machine.acts`, `Machine.made`: many of them in a row, and what came
  of the steps among them.
* `Processor.Concerns`: an action has to do with the instruction at the counter.
* `Machine.Commutes`: two actions come to the same in either order.
* `Machine.Rearranged`: two orders of the same steps, the same ticks and the same moves of each key.
* `actions_commute`: the actions that commute, and what follows for whole interleavings.
-/

namespace Chip8

/-- The instruction reads or sets a timer. -/
def Instruction.usesTimer : Instruction → Bool
  | .getDelay _ | .setDelay _ | .setSound _ => true
  | _ => false

/-- The register that names the key which the instruction asks for. -/
def Instruction.keyRegister? : Instruction → Option Register
  | .skipKeyDown x | .skipKeyUp x | .awaitKey x => some x
  | _ => none

/-- The request that the action is. -/
def Action.request : Action → Request
  | .step => .step
  | .tick => .tick
  | .press key => .press key
  | .release key => .release key

/-- The action has to do with the instruction at the counter. -/
def Processor.Concerns (p : Processor) : Action → Prop
  | .step => True
  | .tick => ∃ i, p.At i ∧ i.usesTimer = true
  | .press key | .release key =>
    ∃ i x, p.At i ∧ i.keyRegister? = some x ∧ (p.register x).toNat = key

namespace Machine

open Chip8.Action (stepCount tickCount moves outside ofOutside)

variable {m : Machine} {a b : Action} {n : Nat}

/-- The turn of an action. -/
def act (m : Machine) : Action → Turn Machine Answer
  | .step => ⟨m.step.state, m.step.events, m.step.result.toExcept.map some⟩
  | .tick => ⟨m.tick, [], .ok none⟩
  | .press key => perform?.silent (m.press key)
  | .release key => perform?.silent (m.release key)

/-- An action comes to what the request that it is comes to. -/
theorem perform?_request (m : Machine) (limit : Nat) (a : Action) :
    m.perform? limit a.request = some (m.act a) := by
  cases a <;> rfl

/-- The machine after actions in a row. -/
def acts (m : Machine) : List Action → Machine
  | [] => m
  | a :: rest => (m.act a).state.acts rest

/-- What came of the steps among actions: their answers, and what the host noticed of them. -/
def made (m : Machine) : List Action → List (Answer × List Event)
  | [] => []
  | .step :: rest => ((m.act .step).result, (m.act .step).events) :: (m.act .step).state.made rest
  | a :: rest => (m.act a).state.made rest

/-- Two actions lead to the same machine in either order, and each of them comes to the same. -/
structure Commutes (m : Machine) (a b : Action) : Prop where
  state : ((m.act a).state.act b).state = ((m.act b).state.act a).state
  firstResult : ((m.act b).state.act a).result = (m.act a).result
  firstEvents : ((m.act b).state.act a).events = (m.act a).events
  secondResult : ((m.act a).state.act b).result = (m.act b).result
  secondEvents : ((m.act a).state.act b).events = (m.act b).events

/-! ## Actions from outside -/

/-- The machine after an influence from outside. -/
def under (m : Machine) (e : Influence) : Machine := { m with processor := e.on m.processor }

theorem act_outside (m : Machine) (h : a.isStep = false) : m.act a = ⟨m.under a.influence, [], .ok none⟩ := by
  cases a with
  | step => cases h
  | tick => rfl
  | press key =>
    have hkey : Key.ofInt? (key : Int) = some key := Key.ofInt?_eq_some_iff.mpr rfl
    simp only [act, Machine.press, withKey, hkey]
    rfl
  | release key =>
    have hkey : Key.ofInt? (key : Int) = some key := Key.ofInt?_eq_some_iff.mpr rfl
    simp only [act, Machine.release, withKey, hkey]
    rfl

/-- An action that does not concern the instruction at the counter spares it. -/
theorem spares_of_not_concerns {p : Processor} (h : ¬ p.Concerns a) :
    ∀ i, p.At i → a.influence.Spares p i := by
  intro i hi
  cases a with
  | step => exact absurd trivial h
  | tick =>
    have huses : i.usesTimer = false := Bool.eq_false_iff.mpr fun hone => h ⟨i, hi, hone⟩
    cases i with
    | getDelay | setDelay | setSound => cases huses
    | skipKeyDown | skipKeyUp | awaitKey => exact fun k _ => rfl
    | _ => trivial
  | press key | release key =>
    have hother : ∀ x, i.keyRegister? = some x → ∀ k, Key.ofInt? (p.register x).toNat = some k →
        key ≠ k := by
      rintro x hx k hk rfl
      have hnumber := Key.ofInt?_eq_some_iff.mp hk
      exact h ⟨i, x, hi, hx, by omega⟩
    cases i with
    | getDelay | setDelay | setSound => rfl
    | skipKeyDown x | skipKeyUp x | awaitKey x =>
      intro k hk
      show (p.keypad.put key _).holds k = p.keypad.holds k
      rw [Keypad.holds_put, if_neg (hother x rfl k hk)]
    | _ => trivial

theorem step_under {e : Influence} (h : ∀ i, m.processor.At i → e.Spares m.processor i) :
    (m.under e).step = ⟨m.step.state.under e, m.step.events, m.step.result⟩ := by
  have hon := Influence.step_on h
  cases hfault : m.fault with
  | some cause =>
    rw [step_of_halted hfault, step_of_halted (m := m.under e) hfault]
  | none =>
    cases hstep : m.processor.step with
    | error f =>
      rw [hstep] at hon
      rw [step_of_error hfault hstep, step_of_error (m := m.under e) hfault hon]
      rfl
    | ok made =>
      obtain ⟨q, i⟩ := made
      rw [hstep] at hon
      cases hlost : m.lost? i with
      | none =>
        rw [step_of_shown hfault hstep hlost, step_of_shown (m := m.under e) hfault hon hlost]
        rfl
      | some failure =>
        rw [step_of_lost hfault hstep hlost, step_of_lost (m := m.under e) hfault hon hlost]
        rfl

/-! ## Two actions -/

theorem commutes_step (ha : a.isStep = false) (h : ¬ m.processor.Concerns a) : m.Commutes .step a := by
  have hstep := step_under (spares_of_not_concerns h)
  constructor
  · rw [act_outside _ ha, act_outside _ ha]
    exact (congrArg Turn.state hstep).symm
  · rw [act_outside m ha]
    show (m.under a.influence).step.result.toExcept.map some = m.step.result.toExcept.map some
    rw [hstep]
  · rw [act_outside m ha]
    show (m.under a.influence).step.events = m.step.events
    rw [hstep]
  · rw [act_outside _ ha, act_outside _ ha]
  · rw [act_outside _ ha, act_outside _ ha]

theorem commutes_outside (ha : a.isStep = false) (hb : b.isStep = false)
    (h : b.influence.on (a.influence.on m.processor) = a.influence.on (b.influence.on m.processor)) :
    m.Commutes a b := by
  have hunder : (m.under a.influence).under b.influence = (m.under b.influence).under a.influence := by
    simp only [under, h]
  constructor
  all_goals simp only [act_outside _ ha, act_outside _ hb]
  exact hunder

/-! ## Many actions -/

/-- Two orders of the same steps, the same ticks and the same moves of each key. -/
structure Rearranged (first second : List Action) : Prop where
  steps : stepCount first = stepCount second
  ticks : tickCount first = tickCount second
  keys : ∀ key, moves key first = moves key second

/-- A number of steps in a row. -/
abbrev steps (n : Nat) : List Action := List.replicate n .step

/-- An instruction that has to do neither with timers nor with keys is concerned by nothing from outside. -/
theorem not_concerns_of_decode? {p : Processor} {i : Instruction}
    (hi : Instruction.decode? (p.memory.wordAt p.counter.toNat) = some i) (htimer : i.usesTimer = false)
    (hkey : i.keyRegister? = none) (ha : a.isStep = false) : ¬ p.Concerns a := by
  have hunique : ∀ j, p.At j → j = i := fun j hj => Option.some.inj (hj.decode?_eq.symm.trans hi)
  cases a with
  | step => cases ha
  | tick =>
    rintro ⟨j, hj, huses⟩
    rw [hunique j hj, htimer] at huses
    cases huses
  | press key | release key =>
    rintro ⟨j, x, hj, hx, -⟩
    rw [hunique j hj, hkey] at hx
    cases hx

theorem concerns_act (ha : a.isStep = false) (b : Action) :
    (m.act a).state.processor.Concerns b ↔ m.processor.Concerns b := by
  rw [act_outside m ha]
  cases b <;> exact Iff.rfl

/-- An action from outside moves past steps that it does not concern. -/
theorem acts_past_steps (ha : a.isStep = false)
    (h : ∀ j < n, ¬ (m.acts (steps j)).processor.Concerns a) :
    (m.act a).state.acts (steps n) = ((m.acts (steps n)).act a).state ∧
      (m.act a).state.made (steps n) = m.made (steps n) := by
  induction n generalizing m with
  | zero => exact ⟨rfl, rfl⟩
  | succ n ih =>
    -- Past the first step, and then past the others, which begin with the machine after it.
    have hcommutes : m.Commutes .step a := commutes_step ha (h 0 (by omega))
    obtain ⟨hacts, hmade⟩ := ih (m := (m.act .step).state) fun j hj => h (j + 1) (by omega)
    rw [hcommutes.state] at hacts hmade
    refine ⟨hacts, ?_⟩
    show (((m.act a).state.act .step).result, ((m.act a).state.act .step).events) ::
      ((m.act a).state.act .step).state.made (steps n) = _
    rw [hcommutes.firstResult, hcommutes.firstEvents, hmade]
    rfl

theorem made_cons (ha : a.isStep = false) (rest : List Action) :
    m.made (a :: rest) = (m.act a).state.made rest := by
  cases a with
  | step => cases ha
  | _ => rfl

theorem acts_append (m : Machine) (before after : List Action) :
    m.acts (before ++ after) = (m.acts before).acts after := by
  induction before generalizing m with
  | nil => rfl
  | cons a rest ih => exact ih (m.act a).state

theorem made_append (m : Machine) (before after : List Action) :
    m.made (before ++ after) = m.made before ++ (m.acts before).made after := by
  induction before generalizing m with
  | nil => rfl
  | cons a rest ih =>
    cases a with
    | step => exact congrArg (_ :: ·) (ih m.step.state)
    | tick | press key | release key => exact ih _

/-- Actions come to the same as their steps in a row and then all the others, provided that at no step one of
the others concerns the instruction at hand. -/
theorem acts_eq_steps_first (actions : List Action)
    (h : ∀ j < stepCount actions, ∀ a ∈ outside actions, ¬ (m.acts (steps j)).processor.Concerns a) :
    m.acts actions = (m.acts (steps (stepCount actions))).acts (outside actions) ∧
      m.made actions = m.made (steps (stepCount actions)) := by
  induction actions generalizing m with
  | nil => exact ⟨rfl, rfl⟩
  | cons a rest ih =>
    cases ha : a.isStep with
    | true =>
      obtain rfl := Action.eq_step ha
      rw [Action.stepCount_step, Action.outside_step] at h ⊢
      obtain ⟨hacts, hmade⟩ := ih (m := (m.act .step).state) fun j hj => h (j + 1) (by omega)
      exact ⟨hacts, congrArg (((m.act .step).result, (m.act .step).events) :: ·) hmade⟩
    | false =>
      rw [Action.stepCount_cons ha, Action.outside_cons ha] at h ⊢
      -- The first action goes past the steps, which it does not concern.
      have hpast : ∀ n ≤ stepCount rest,
          (m.act a).state.acts (steps n) = ((m.acts (steps n)).act a).state ∧
            (m.act a).state.made (steps n) = m.made (steps n) :=
        fun n hn => acts_past_steps ha fun j hj => h j (by omega) a List.mem_cons_self
      obtain ⟨hacts, hmade⟩ := ih (m := (m.act a).state) (by
        intro j hj b hb
        rw [(hpast j (by omega)).1, concerns_act ha]
        exact h j hj b (List.mem_cons_of_mem a hb))
      obtain ⟨hlast, hsame⟩ := hpast (stepCount rest) (Nat.le_refl _)
      rw [made_cons ha]
      refine ⟨?_, hmade.trans hsame⟩
      show (m.act a).state.acts rest = _
      rw [hacts, hlast]
      rfl

/-! ## Ticks and keys in any order -/

theorem acts_outside (m : Machine) (actions : List Action) :
    m.acts (outside actions) = m.under (ofOutside actions) := by
  induction actions generalizing m with
  | nil => rfl
  | cons a rest ih =>
    have hunder : m.under (ofOutside (a :: rest)) = (m.under a.influence).under (ofOutside rest) := by
      simp only [under, Action.ofOutside_cons]
    rw [hunder]
    cases ha : a.isStep with
    | true =>
      obtain rfl := Action.eq_step ha
      exact ih m
    | false =>
      rw [Action.outside_cons ha, ← ih, acts, act_outside m ha]

theorem Rearranged.ofOutside_eq {first second : List Action} (h : Rearranged first second) :
    ofOutside first = ofOutside second := by
  have hkeypad : (ofOutside first).keypad = (ofOutside second).keypad := by
    funext pad
    refine Keypad.ext_holds fun key => ?_
    rw [Action.holds_ofOutside, Action.holds_ofOutside, h.keys key]
  have hticks : (ofOutside first).delay = (ofOutside second).delay :=
    congrArg (Nat.iterate Processor.countDown) h.ticks
  exact Influence.ext hticks hticks hkeypad

theorem Rearranged.mem_outside {first second : List Action} (h : Rearranged first second)
    (ha : a ∈ outside second) : a ∈ outside first := by
  obtain ⟨hmem, hstep⟩ := List.mem_filter.mp ha
  refine List.mem_filter.mpr ⟨?_, hstep⟩
  cases a with
  | step => cases hstep
  | tick => rwa [Action.tick_mem_iff, h.ticks, ← Action.tick_mem_iff]
  | press key =>
    have hmove : (Action.press key).move? key = some true := if_pos rfl
    rwa [Action.mem_iff_of_move? hmove, h.keys key, ← Action.mem_iff_of_move? hmove]
  | release key =>
    have hmove : (Action.release key).move? key = some false := if_pos rfl
    rwa [Action.mem_iff_of_move? hmove, h.keys key, ← Action.mem_iff_of_move? hmove]

theorem acts_eq_of_rearranged {first second : List Action} (hsame : Rearranged first second)
    (h : ∀ j < stepCount first, ∀ a ∈ outside first, ¬ (m.acts (steps j)).processor.Concerns a) :
    m.acts first = m.acts second ∧ m.made first = m.made second := by
  -- Both orders come to the steps first; what is left are ticks and keys, whose order does not matter.
  obtain ⟨hfirst, hmade⟩ := acts_eq_steps_first first h
  obtain ⟨hsecond, hmade'⟩ := acts_eq_steps_first (m := m) second fun j hj b hb =>
    h j (hsame.steps ▸ hj) b (hsame.mem_outside hb)
  rw [acts_outside, ← hsame.steps] at hsecond
  rw [acts_outside, hsame.ofOutside_eq] at hfirst
  rw [← hsame.steps] at hmade'
  exact ⟨hfirst.trans hsecond.symm, hmade.trans hmade'.symm⟩

/-- **The order of independent actions does not matter.** A step commutes with a tick unless its instruction
reads or sets a timer, and with a key going down or up unless its instruction asks for this key; this holds
as well when the step fails or the machine is halted. Ticks commute with keys, and different keys with each
other. So any two orders of the same steps, the same ticks and the same moves of each key come to the same,
provided that at no step one of these ticks and moves concerns the instruction at hand. -/
theorem actions_commute (m : Machine) :
    ((∀ i, m.processor.At i → i.usesTimer = false) → m.Commutes .step .tick) ∧
    (∀ key : Key,
      (∀ i x, m.processor.At i → i.keyRegister? = some x → (m.processor.register x).toNat ≠ key) →
      m.Commutes .step (.press key) ∧ m.Commutes .step (.release key)) ∧
    (∀ key, m.Commutes .tick (.press key) ∧ m.Commutes .tick (.release key)) ∧
    (∀ key other : Key, key ≠ other →
      m.Commutes (.press key) (.press other) ∧ m.Commutes (.press key) (.release other) ∧
      m.Commutes (.release key) (.press other) ∧ m.Commutes (.release key) (.release other)) ∧
    ∀ first second : List Action, Rearranged first second →
      (∀ j < stepCount first, ∀ a ∈ outside first, ¬ (m.acts (steps j)).processor.Concerns a) →
      m.acts first = m.acts second ∧ m.made first = m.made second := by
  have hkeys : ∀ (key other : Key) (down down' : Bool), key ≠ other →
      (Influence.key other down').on ((Influence.key key down).on m.processor) =
        (Influence.key key down).on ((Influence.key other down').on m.processor) := by
    intro key other down down' hne
    simp only [Influence.on, Influence.key, Keypad.put_comm _ down down' hne]
  refine ⟨?_, ?_, ?_, ?_, fun first second => acts_eq_of_rearranged⟩
  · intro htimer
    refine commutes_step rfl ?_
    rintro ⟨i, hi, huses⟩
    rw [htimer i hi] at huses
    cases huses
  · intro key hasks
    have hfree : ¬ m.processor.Concerns (.press key) := by
      rintro ⟨i, x, hi, hx, hkey⟩
      exact hasks i x hi hx hkey
    exact ⟨commutes_step rfl hfree, commutes_step rfl hfree⟩
  · intro key
    exact ⟨commutes_outside rfl rfl rfl, commutes_outside rfl rfl rfl⟩
  · intro key other hne
    exact ⟨commutes_outside rfl rfl (hkeys key other true true hne),
      commutes_outside rfl rfl (hkeys key other true false hne),
      commutes_outside rfl rfl (hkeys key other false true hne),
      commutes_outside rfl rfl (hkeys key other false false hne)⟩

/-- Two constants are stored, with a tick and two keys before, between or behind. -/
theorem actions_commute_of_constants :
    ∃ m : Machine, m.Commutes .step .tick ∧
      m.acts [.step, .tick, .step, .press 3, .press 7] =
        m.acts [.press 7, .press 3, .tick, .step, .step] ∧
      m.made [.step, .tick, .step, .press 3, .press 7] =
        m.made [.press 7, .press 3, .tick, .step, .step] := by
  have hrun : ((create [0x60, 0x05, 0x61, 0x07] ⟨0, 0⟩ (.whole 1000) (.whole 60) .debug .absent
      .absent).toOption.map fun m =>
        let later := m.acts (steps 1)
        (Instruction.decode? (m.processor.memory.wordAt m.processor.counter.toNat),
          Instruction.decode? (later.processor.memory.wordAt later.processor.counter.toNat))) =
      some (some (.set 0 5), some (.set 1 7)) := by decide +kernel
  obtain ⟨m, -, hfound⟩ := Option.map_eq_some_iff.mp hrun
  obtain ⟨hzero, hone⟩ := Prod.mk.inj hfound
  have hfree : ∀ j < 2, ∀ a ∈ [Action.tick, .press 3, .press 7],
      ¬ (m.acts (steps j)).processor.Concerns a := by
    intro j hj a ha
    have hstep : a.isStep = false := by
      simp only [List.mem_cons, List.not_mem_nil, or_false] at ha
      rcases ha with rfl | rfl | rfl <;> rfl
    obtain rfl | rfl : j = 0 ∨ j = 1 := by omega
    · exact not_concerns_of_decode? hzero rfl rfl hstep
    · exact not_concerns_of_decode? hone rfl rfl hstep
  have hsame : Rearranged [.step, .tick, .step, .press 3, .press 7]
      [.press 7, .press 3, .tick, .step, .step] := ⟨rfl, rfl, by decide⟩
  obtain ⟨htick, -, -, -, horders⟩ := actions_commute m
  refine ⟨m, htick fun i hi => ?_, horders _ _ hsame hfree⟩
  exact Bool.eq_false_iff.mpr fun huses =>
    hfree 0 (by omega) .tick (by simp) ⟨i, hi, huses⟩

end Machine

end Chip8
