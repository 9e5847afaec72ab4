import Chip8.Proofs.Processor.CounterBound
import Chip8.Proofs.Processor.Timers

/-!
# Waiting for a key

An instruction that waits for a key is carried out again and again, and changes nothing until the key goes
down. Meanwhile timers and keys go their own way.

* `Processor.Waiting`: the processor waits for a key.
* `Waiting.run_eq`: of actions in which this key does not go down, only the ticks and the keys are left.
* `step_of_pressed`: the first step after the key went down.
* `awaits_key`: all of it, and that waiting and skipping ask for the same.
-/

namespace Chip8

open Chip8.Action (stepCount tickCount moves ofOutside)

namespace Processor

variable {p : Processor} {x : Register} {key : Key} {a : Action}

theorem keyIs_eq_true_iff {down : Bool} :
    p.keyIs x down = true ↔ ∃ key : Key, (p.register x).toNat = key ∧ p.keypad.holds key = down := by
  unfold keyIs
  cases hkey : Key.ofInt? (p.register x).toNat with
  | none =>
    have hnone := Key.ofInt?_eq_none_iff.mp hkey
    simp only [Bool.false_eq_true, false_iff]
    rintro ⟨key, hname, -⟩
    have hlt := key.isLt
    omega
  | some key =>
    have hname := Key.ofInt?_eq_some_iff.mp hkey
    simp only [beq_iff_eq]
    constructor
    · exact fun hdown => ⟨key, by omega, hdown⟩
    · rintro ⟨other, hother, hdown⟩
      obtain rfl : key = other := Fin.ext (by omega)
      exact hdown

/-! ## Waiting -/

/-- The processor is at an instruction that waits for a key, and the key is up. -/
structure Waiting (p : Processor) (x : Register) (key : Key) : Prop where
  at_await : p.At (.awaitKey x)
  name : (p.register x).toNat = key
  up : p.keypad.holds key = false

/-- Nothing is changed while the key is up, and else the counter alone. -/
theorem step_awaitKey (hat : p.At (.awaitKey x)) :
    p.step = .ok (if p.keyIs x false then p else p.advance, .awaitKey x) := by
  refine step_eq_ok_iff.mpr ⟨hat, rfl, ?_⟩
  simp only [apply, advance_keyIs]
  split_ifs with hup
  · show p = { p with counter := p.counter + 2 - 2 }
    rw [counter_add_two_sub_two]
  · rfl

theorem Waiting.step (h : p.Waiting x key) : p.step = .ok (p, .awaitKey x) := by
  rw [step_awaitKey h.at_await, if_pos (keyIs_eq_true_iff.mpr ⟨key, h.name, h.up⟩)]

/-- As long as the key does not go down, the waiting goes on. -/
theorem Waiting.influence (h : p.Waiting x key) (ha : a ≠ .press key) :
    (a.influence.on p).Waiting x key := by
  refine ⟨h.at_await, h.name, ?_⟩
  cases a with
  | step | tick => exact h.up
  | press other =>
    have hother : other ≠ key := fun heq => ha (by rw [heq])
    show (p.keypad.put other true).holds key = false
    rw [Keypad.holds_put, if_neg hother]
    exact h.up
  | release other =>
    show (p.keypad.put other false).holds key = false
    rw [Keypad.holds_put]
    split_ifs
    · rfl
    · exact h.up

theorem Waiting.act_eq (h : p.Waiting x key) : p.act a = a.influence.on p := by
  cases ha : a.isStep with
  | true =>
    cases a with
    | step => simp only [act, h.step]; rfl
    | _ => cases ha
  | false => exact act_of_outside ha

/-- Of actions in which the key does not go down, only the ticks and the keys are left. All their steps are
completed, at the same place. -/
theorem Waiting.run_eq (h : p.Waiting x key) {actions : List Action} (hup : .press key ∉ actions) :
    p.run actions = (ofOutside actions).on p ∧
      p.trace actions = List.replicate (stepCount actions) ⟨p.counter, .awaitKey x⟩ := by
  induction actions generalizing p with
  | nil => exact ⟨rfl, rfl⟩
  | cons a rest ih =>
    obtain ⟨ha, hrest⟩ := List.ne_and_not_mem_of_not_mem_cons hup
    obtain ⟨hrun, htrace⟩ := ih (h.influence ha.symm) hrest
    rw [Processor.run, trace, h.act_eq, Action.ofOutside_cons, htrace]
    refine ⟨hrun, ?_⟩
    -- Among the actions only a step leaves a trace.
    cases a with
    | step =>
      have hone : p.executed .step = [⟨p.counter, .awaitKey x⟩] := by simp only [executed, h.step]
      rw [hone, Action.stepCount_step, List.replicate_succ]
      rfl
    | _ =>
      rw [Action.stepCount_cons rfl]
      rfl

/-! ## The end of waiting -/

/-- A key that goes down, and not up again, is down. -/
theorem holds_of_pressed (pad : Keypad) {more : List Action} (hup : .release key ∉ more) :
    ((ofOutside (.press key :: more)).keypad pad).holds key = true := by
  have hdown : moves key (.press key :: more) = true :: moves key more :=
    List.filterMap_cons_some (if_pos rfl)
  have hrelease : (Action.release key).move? key = some false := if_pos rfl
  rw [Action.holds_ofOutside, hdown, List.getLastD_cons]
  -- The latest move is one of the moves, and none of them is up.
  have hlatest : (moves key more).getLastD true ∈ true :: moves key more := List.getLastD_mem_cons
  rcases List.mem_cons.mp hlatest with hfirst | hlater
  · exact hfirst
  · refine eq_true_of_ne_false fun hfalse => hup ?_
    rwa [Action.mem_iff_of_move? hrelease, ← hfalse]

/-- With the key down the step goes past the instruction. -/
theorem step_of_pressed (hat : p.At (.awaitKey x)) (hname : (p.register x).toNat = key)
    {more : List Action} (hstep : .step ∉ more) (hup : .release key ∉ more) :
    (p.run (.press key :: more)).step =
      .ok ({ p.run (.press key :: more) with counter := p.counter + 2 }, .awaitKey x) := by
  have hquiet : .step ∉ .press key :: more := by simp [hstep]
  have hdown := holds_of_pressed p.keypad hup
  rw [run_of_outside hquiet]
  have hthere : ((ofOutside (.press key :: more)).on p).At (.awaitKey x) := hat
  rw [step_awaitKey hthere, if_neg]
  · rfl
  intro hwaits
  obtain ⟨other, hother, hsame⟩ := keyIs_eq_true_iff.mp hwaits
  obtain rfl : key = other := Fin.ext (hname.symm.trans hother)
  exact Bool.false_ne_true (hsame.symm.trans hdown)

/-- A value that names no key does not wait for one. -/
theorem step_of_no_key (hat : p.At (.awaitKey x)) (h : 15 < (p.register x).toNat) :
    p.step = .ok (p.advance, .awaitKey x) := by
  rw [step_awaitKey hat, if_neg]
  intro hwaits
  obtain ⟨key, hname, -⟩ := keyIs_eq_true_iff.mp hwaits
  have hlt := key.isLt
  omega

/-! ## Waiting and skipping -/

theorem moved_iff {place : UInt16} (h : place ≠ p.counter) (condition : Bool) :
    (if condition then { p with counter := place } else p) = { p with counter := place } ↔
      condition = true := by
  cases condition with
  | true => exact iff_of_true rfl rfl
  | false => exact iff_of_false (fun hsame => h (congrArg counter hsame).symm) Bool.false_ne_true

theorem awaits_iff_keyIs (p : Processor) (x : Register) :
    p.execute (.awaitKey x) = .ok { p with counter := p.counter - 2 } ↔ p.keyIs x false = true := by
  have hback : p.counter - 2 ≠ p.counter := by
    rw [Ne, UInt16.sub_eq_iff_eq_add, eq_comm]
    simp
  show Except.ok (p.apply (.awaitKey x)) = _ ↔ _
  rw [Except.ok.injEq]
  exact moved_iff hback _

theorem skips_iff_keyIs (p : Processor) (x : Register) :
    p.execute (.skipKeyUp x) = .ok { p with counter := p.counter + 2 } ↔ p.keyIs x false = true := by
  have hpast : p.counter + 2 ≠ p.counter := by simp
  show Except.ok (p.skipIf (p.keyIs x false)) = _ ↔ _
  rw [Except.ok.injEq]
  exact moved_iff hpast _

/-- **Waiting for a key.** At an instruction that waits for a key that is up, whatever actions there are without
this key going down, all their steps are completed, at the same place: in the end the timers are counted down
by the ticks, each key is as its latest move left it, and all else is as at the start. The first step after
the key has gone down, and not up again, changes the counter alone, which is then past the instruction. A value
above 15 names no key, and nothing is waited for. And wherever it is carried out, the instruction waits where
the one that skips unless the key is down skips, which is where the register names a key that is up. -/
theorem awaits_key (p : Processor) (x : Register) :
    (p.At (.awaitKey x) →
      (∀ key : Key, (p.register x).toNat = key → p.keypad.holds key = false →
        ∀ actions, .press key ∉ actions →
          let q := p.run actions
          p.trace actions = List.replicate (stepCount actions) ⟨p.counter, .awaitKey x⟩ ∧
          q = { p with delay := q.delay, sound := q.sound, keypad := q.keypad } ∧
          q.delay.toNat = p.delay.toNat - tickCount actions ∧
          q.sound.toNat = p.sound.toNat - tickCount actions ∧
          (∀ other, q.keypad.holds other = (moves other actions).getLastD (p.keypad.holds other)) ∧
          ∀ more, .step ∉ more → .release key ∉ more →
            let r := q.run (.press key :: more)
            r.step = .ok ({ r with counter := p.counter + 2 }, .awaitKey x) ∧
            (p.counter + 2).toNat = p.counter.toNat + 2) ∧
      (15 < (p.register x).toNat → p.step = .ok ({ p with counter := p.counter + 2 }, .awaitKey x))) ∧
    (p.execute (.awaitKey x) = .ok { p with counter := p.counter - 2 } ↔
      p.execute (.skipKeyUp x) = .ok { p with counter := p.counter + 2 }) ∧
    (p.execute (.skipKeyUp x) = .ok { p with counter := p.counter + 2 } ↔
      ∃ key : Key, (p.register x).toNat = key ∧ p.keypad.holds key = false) := by
  refine ⟨fun hat => ⟨?_, step_of_no_key hat⟩, ?_, ?_⟩
  · intro key hname hup actions hquiet q
    obtain ⟨hrun, htrace⟩ := Waiting.run_eq ⟨hat, hname, hup⟩ hquiet
    have hq : q = (ofOutside actions).on p := hrun
    refine ⟨htrace, ?_, ?_, ?_, fun other => ?_, fun more hstep hdown => ⟨?_, ?_⟩⟩
    · rw [hq]
      rfl
    · rw [hq]
      exact toNat_countDown_iterate _ _
    · rw [hq]
      exact toNat_countDown_iterate _ _
    · rw [hq]
      exact Action.holds_ofOutside other actions p.keypad
    · have hthere : q.At (.awaitKey x) := hq ▸ hat
      have hsame : (q.register x).toNat = key := hq ▸ hname
      have hcounter : q.counter = p.counter := by
        rw [hq]
        rfl
      rw [← hcounter]
      exact step_of_pressed hthere hsame hstep hdown
    · exact toNat_counter_add_two hat.counter_lt
  · rw [awaits_iff_keyIs, skips_iff_keyIs]
  · rw [skips_iff_keyIs, keyIs_eq_true_iff]

/-- Key 7 is waited for over two steps and a tick. Another key goes down meanwhile, then key 7 does. -/
theorem awaits_key_of_seven :
    ∃ p : Processor, p.At (.awaitKey 0) ∧ (p.register 0).toNat = 7 ∧
      p.trace [.step, .press 3, .tick, .step] = [⟨0x200, .awaitKey 0⟩, ⟨0x200, .awaitKey 0⟩] ∧
      (p.run [.step, .press 3, .tick, .step]).delay.toNat = p.delay.toNat - 1 ∧
      ∃ r, ((p.run [.step, .press 3, .tick, .step]).run [.press 7]).step = .ok (r, .awaitKey 0) ∧
        r.counter.toNat = 0x202 := by
  let p : Processor := { fresh ⟨0, 0⟩ with
    registers := Vector.replicate 16 7, delay := 60
    memory := (Memory.blank.write 0x200 0xF0).write 0x201 0x0A }
  have hat : p.At (.awaitKey 0) := at_of_write (by decide) rfl rfl (by decide)
  have hname : (p.register 0).toNat = (7 : Key) := rfl
  have hup : p.keypad.holds 7 = false := Keypad.holds_released 7
  obtain ⟨hwaits, -⟩ := (awaits_key p 0).1 hat
  obtain ⟨htrace, -, hdelay, -, -, hend⟩ :=
    hwaits 7 hname hup [.step, .press 3, .tick, .step] (by simp)
  obtain ⟨hstep, hpast⟩ := hend [] (by simp) (by simp)
  exact ⟨p, hat, hname, htrace, hdelay, _, hstep, hpast⟩

end Processor

end Chip8
