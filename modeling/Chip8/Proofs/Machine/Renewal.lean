import Chip8.Proofs.Machine.History
import Chip8.Proofs.Processor.Run

/-!
# Resets make a machine new

Whatever has become of a machine, after a reset to a program that fits it is the machine that would be made
for this program, with the settings of the first one and with the observers of the moment.

* `Machine.Life`: what can become of a machine, also by loops that go on for ever.
* `reset_eq_create`: the machine after a reset, and all that can follow.
-/

namespace Chip8.Machine

/-- What can become of a machine. Beside the requests of the host, which come in any order with the steps
and ticks of loops that do not end, the host can give it another renderer and another listener. -/
inductive Life (m : Machine) : Machine → Prop where
  | new : Life m m
  | asked {n request turn} (h : Life m n) (hanswer : n.Answers request turn) : Life m turn.state
  | begun {n} (h : Life m n) (hfault : n.fault = none) : Life m n.begun
  | looped {n} (h : Life m n) (hstarted : n.started = true) : Life m n.loopStep.1
  | given {n} (h : Life m n) (renderer : Renderer) (listener : Listener) :
    Life m { n with renderer, listener }

variable {m last : Machine} {rom : Rom}

theorem loopStep_settings (m : Machine) : m.loopStep.1.settings = m.settings := by
  have hstep := m.exit_of_step.settings_eq
  unfold loopStep
  dsimp only
  split <;> exact hstep

/-- Nothing changes the settings of a machine. -/
theorem Life.settings_eq (h : m.Life last) : last.settings = m.settings := by
  induction h with
  | new => rfl
  | asked h hanswer ih => exact (exit_of_answers hanswer).settings_eq.trans ih
  | @begun n h hfault ih =>
    rw [begun_eq]
    exact ih
  | @looped n h hstarted ih => exact n.loopStep_settings.trans ih
  | given h renderer listener ih => exact ih

/-- **A reset makes a machine new.** Whatever has become of a machine, with a program that fits there is a new
machine with the same settings and the observers of the moment, and a reset to this program leads to just
that machine. So each of the two can go through the same histories, and if the same is asked of both
then every answer, all that the host notices and every state on the way are the same. -/
theorem reset_eq_create {first : Rom} {random : RandomKey} {steps ticks : Rate} {threshold : Level}
    {renderer : Renderer} {listener : Listener}
    (hnew : create first random steps ticks threshold renderer listener = .ok m) (h : m.Life last)
    (hfits : rom.length ≤ 3584) :
    ∃ fresh, create rom random steps ticks threshold last.renderer last.listener = .ok fresh ∧
      (last.reset rom).state = fresh ∧
      (∀ history next, (last.reset rom).state.History history next ↔ fresh.History history next) ∧
      ∀ history next history' next', (last.reset rom).state.History history next →
        fresh.History history' next' →
        history.map Exchange.request = history'.map Exchange.request →
        history = history' ∧ next = next' := by
  obtain ⟨processor, stepPeriod, tickPeriod, -, hsteps, hticks, rfl⟩ := create_eq_ok_iff.mp hnew
  have hsettings := h.settings_eq
  obtain ⟨p, hboot⟩ := Processor.exists_boot? random hfits
  have hrandom : last.settings.random = random := congrArg Settings.random hsettings
  have hreset : (last.reset rom).state = last.restarted p := reset_state (hrandom ▸ hboot)
  refine ⟨last.restarted p, ?_, hreset, fun history next => ?_, fun history next history' next' => ?_⟩
  · refine create_eq_ok_iff.mpr ⟨p, stepPeriod, tickPeriod, hboot, hsteps, hticks, ?_⟩
    rw [restarted, hsettings]
  · rw [hreset]
  · rw [hreset]
    exact History.unique

/-- A key is held down and a return fails with no call open; then the machine is reset to a program that
stores a constant. -/
theorem reset_eq_create_of_underflow :
    ∃ m last fresh : Machine,
      create [0x00, 0xEE] ⟨0, 7⟩ (.whole 1000) (.whole 60) .info .faithful .absent = .ok m ∧
      m.Life last ∧ last.fault = some .stackUnderflow ∧ last.processor.keypad.holds 5 = true ∧
      create [0x60, 0x07] ⟨0, 7⟩ (.whole 1000) (.whole 60) .info last.renderer last.listener =
        .ok fresh ∧
      (last.reset [0x60, 0x07]).state = fresh := by
  have hrun : ((create [0x00, 0xEE] ⟨0, 7⟩ (.whole 1000) (.whole 60) .info .faithful
      .absent).toOption.map fun m =>
        let last := (m.press 5).state.step.state
        (last.fault, last.processor.keypad.holds 5)) = some (some .stackUnderflow, true) := by
    decide +kernel
  obtain ⟨m, hm, hlast⟩ := Option.map_eq_some_iff.mp hrun
  obtain ⟨hfault, hholds⟩ := Prod.mk.inj hlast
  have hnew := eq_ok_of_toOption hm
  have hpress : m.Answers (.press 5) ⟨(m.press 5).state, [], .ok none⟩ := ⟨0, rfl⟩
  obtain ⟨events, hstep⟩ := (m.press 5).state.exists_answers_step
  have hlife : m.Life (m.press 5).state.step.state := .asked (.asked .new hpress) hstep
  have hfits : List.length ([0x60, 0x07] : Rom) ≤ 3584 := by decide
  obtain ⟨fresh, hfresh, hreset, -⟩ := reset_eq_create hnew hlife hfits
  exact ⟨m, _, fresh, hnew, hlife, hfault, hholds, hfresh, hreset⟩

end Chip8.Machine
