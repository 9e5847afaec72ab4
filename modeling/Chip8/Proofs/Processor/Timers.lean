import Chip8.Proofs.Processor.Actions
import Chip8.Proofs.Processor.Footprint

/-!
# Timers in a run

A timer is counted down by one at each tick until it is zero. Nothing else changes it but the instruction that
sets it.

* `toNat_countDown`, `toNat_countDown_iterate`: one tick, and many of them.
* `toNat_timer_run`: a timer that no instruction of a run sets is counted down by the ticks of the run.
* `toNat_delay_run`, `toNat_sound_run`: the two timers of the processor.
-/

namespace Chip8

open Chip8.Action (tickCount)

namespace Processor

theorem toNat_countDown (timer : UInt8) : (countDown timer).toNat = timer.toNat - 1 := by
  unfold countDown
  split_ifs with h
  · exact UInt8.toNat_sub_of_le timer 1 (UInt8.le_iff_toNat_le.mpr (UInt8.lt_iff_toNat_lt.mp h))
  · have hzero : ¬ 0 < timer.toNat := fun hpos => h (UInt8.lt_iff_toNat_lt.mpr hpos)
    omega

theorem toNat_countDown_iterate (n : Nat) (timer : UInt8) :
    (countDown^[n] timer).toNat = timer.toNat - n := by
  induction n generalizing timer with
  | zero => rfl
  | succ n ih =>
    rw [Function.iterate_succ_apply, ih, toNat_countDown]
    omega

section Timer

variable {timer : Processor → UInt8} {set : Register → Instruction}
  (htick : ∀ p : Processor, timer p.tick = countDown (timer p))
  (hkeypad : ∀ (p : Processor) keypad, timer { p with keypad } = timer p)
  (hstep : ∀ (p q : Processor) i, p.step = .ok (q, i) → timer q ≠ timer p → ∃ r, i = set r)

include htick hkeypad hstep

/-- Only a tick changes a timer, unless an instruction sets it. -/
theorem toNat_timer_act (p : Processor) {action : Action}
    (h : ∀ x ∈ p.executed action, ∀ r, x.instruction ≠ set r) :
    (timer (p.act action)).toNat = (timer p).toNat - if action.isTick then 1 else 0 := by
  cases action with
  | tick =>
    show (timer p.tick).toNat = _
    rw [htick, toNat_countDown]
    rfl
  | press key | release key => exact congrArg UInt8.toNat (hkeypad p _)
  | step =>
    have hsame : timer (p.act .step) = timer p := by
      unfold executed at h
      unfold act
      cases hmade : p.step with
      | error f => rfl
      | ok made =>
        rw [hmade] at h
        by_contra hchanged
        obtain ⟨r, hr⟩ := hstep p made.1 made.2 hmade hchanged
        exact h _ List.mem_cons_self r hr
    rw [hsame]
    rfl

/-- A timer is counted down by the ticks of a run, unless an instruction sets it. -/
theorem toNat_timer_run (p : Processor) {actions : List Action}
    (h : ∀ x ∈ p.trace actions, ∀ r, x.instruction ≠ set r) :
    (timer (p.run actions)).toNat = (timer p).toNat - tickCount actions := by
  induction actions generalizing p with
  | nil => rfl
  | cons action rest ih =>
    have hone := toNat_timer_act htick hkeypad hstep p fun x hx => h x (List.mem_append_left _ hx)
    have hrest := ih (p.act action) fun x hx => h x (List.mem_append_right _ hx)
    rw [run, hrest, hone, Action.tickCount_cons]
    omega

end Timer

theorem toNat_delay_run (p : Processor) {actions : List Action}
    (h : ∀ x ∈ p.trace actions, ∀ r, x.instruction ≠ .setDelay r) :
    (p.run actions).delay.toNat = p.delay.toNat - tickCount actions := by
  refine toNat_timer_run (fun _ => rfl) (fun _ _ => rfl) ?_ p h
  intro p q i hstep hchanged
  obtain ⟨-, -, rfl⟩ := step_eq_ok_iff.mp hstep
  exact (p.advance.footprint_apply i).delay hchanged

theorem toNat_sound_run (p : Processor) {actions : List Action}
    (h : ∀ x ∈ p.trace actions, ∀ r, x.instruction ≠ .setSound r) :
    (p.run actions).sound.toNat = p.sound.toNat - tickCount actions := by
  refine toNat_timer_run (fun _ => rfl) (fun _ _ => rfl) ?_ p h
  intro p q i hstep hchanged
  obtain ⟨-, -, rfl⟩ := step_eq_ok_iff.mp hstep
  exact (p.advance.footprint_apply i).sound hchanged

end Processor

end Chip8
