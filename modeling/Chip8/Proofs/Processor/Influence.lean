import Chip8.Proofs.Keypad
import Chip8.Proofs.Processor.Step
import Mathlib.Tactic.SplitIfs

/-!
# Influences from outside

Ticks and keys change the timers and the keypad of a processor, whatever the program is at. An instruction
that has nothing to do with what they change is not disturbed by them, neither in its effect nor in
its faults.

* `Influence`, `Influence.on`: a change of the timers and the keypad.
* `Influence.Spares`: an instruction has nothing to do with the change.
* `Influence.apply_on`, `Influence.step_on`: then it makes no difference which of the two comes first.
-/

namespace Chip8

/-- A change of the timers and of the keypad. -/
@[ext]
structure Influence where
  delay : UInt8 → UInt8
  sound : UInt8 → UInt8
  keypad : Keypad → Keypad

namespace Influence

variable {e : Influence} {p : Processor} {i : Instruction}

/-- The processor after the change. -/
def on (e : Influence) (p : Processor) : Processor :=
  { p with delay := e.delay p.delay, sound := e.sound p.sound, keypad := e.keypad p.keypad }

/-- A tick of the timers. -/
def tick : Influence := ⟨Processor.countDown, Processor.countDown, id⟩

/-- A key goes down or up. -/
def key (k : Key) (down : Bool) : Influence := ⟨id, id, fun pad => pad.put k down⟩

/-- The instruction neither reads nor writes what the influence changes. Of the keypad it reads one key at
most. -/
def Spares (e : Influence) (p : Processor) (i : Instruction) : Prop :=
  match i with
  | .getDelay _ | .setDelay _ => e.delay = id
  | .setSound _ => e.sound = id
  | .skipKeyDown x | .skipKeyUp x | .awaitKey x =>
    ∀ k, Key.ofInt? (p.register x).toNat = some k →
      (e.keypad p.keypad).holds k = p.keypad.holds k
  | _ => True

/-! ## Parts of an instruction -/

theorem on_register (e : Influence) (p : Processor) (x : Register) :
    (e.on p).register x = p.register x := rfl

theorem on_skipIf (e : Influence) (p : Processor) (condition : Bool) :
    (e.on p).skipIf condition = e.on (p.skipIf condition) := by
  cases condition <;> rfl

theorem keyIs_on {x : Register}
    (h : ∀ k, Key.ofInt? (p.register x).toNat = some k →
      (e.keypad p.keypad).holds k = p.keypad.holds k) (down : Bool) :
    (e.on p).keyIs x down = p.keyIs x down := by
  unfold Processor.keyIs
  rw [on_register]
  cases hkey : Key.ofInt? (p.register x).toNat with
  | none => rfl
  | some k =>
    show ((e.keypad p.keypad).holds k == down) = (p.keypad.holds k == down)
    rw [h k hkey]

theorem at_on : (e.on p).At i ↔ p.At i := Iff.rfl

theorem check_on (e : Influence) (p : Processor) (i : Instruction) : (e.on p).check i = p.check i := by
  cases i <;> rfl

/-! ## Instructions and steps -/

/-- The effect of an instruction that an influence spares. -/
theorem apply_on (h : e.Spares p i) : (e.on p).apply i = e.on (p.apply i) := by
  cases i with
  | arith op x y =>
    simp only [Processor.apply, on_register]
    cases op.result (p.register x) (p.register y) with
    | mk value flag => cases flag <;> rfl
  | skipEq | skipNe | skipEqReg | skipNeReg => exact on_skipIf e p _
  | skipKeyDown x | skipKeyUp x =>
    simp only [Processor.apply, keyIs_on h]
    exact on_skipIf e p _
  | awaitKey x =>
    simp only [Processor.apply, keyIs_on h]
    split_ifs <;> rfl
  | getDelay x =>
    have hdelay : e.delay p.delay = p.delay := congrFun h p.delay
    simp only [Processor.apply, Processor.setRegister, on, hdelay]
  | setDelay x =>
    have hdelay : e.delay (p.register x) = p.register x := congrFun h (p.register x)
    simp only [Processor.apply, on, hdelay]
    rfl
  | setSound x =>
    have hsound : e.sound (p.register x) = p.register x := congrFun h (p.register x)
    simp only [Processor.apply, on, hsound]
    rfl
  | draw x y rows =>
    simp only [Processor.apply, on_register]
    rfl
  | storeRegs last =>
    simp only [Processor.apply, Processor.storeLanes, on_register]
    rfl
  | loadRegs last =>
    simp only [Processor.apply, Processor.loadLanes, on_register]
    rfl
  | _ => rfl

/-- A step at an instruction that an influence spares. It also makes no difference for the faults. -/
theorem step_on (h : ∀ i, p.At i → e.Spares p i) :
    (e.on p).step = p.step.map fun made => (e.on made.1, made.2) := by
  -- Which of the three cases a step is in is settled by memory and counter alone.
  rcases p.step_cases with hbeyond | ⟨w, hword, hw⟩ | ⟨i, hi⟩
  · rw [Processor.step_beyond hbeyond, Processor.step_beyond (p := e.on p) hbeyond]
    rfl
  · rw [Processor.step_unknown hword hw, Processor.step_unknown (p := e.on p) hword hw]
    rfl
  · have hspares : e.Spares p.advance i := by
      have hhere := h i hi
      cases i <;> exact hhere
    have hadvance : (e.on p).advance = e.on p.advance := rfl
    rw [Processor.step_at hi, Processor.step_at (at_on.mpr hi), check_on, hadvance, apply_on hspares]
    cases p.check i <;> rfl

end Influence

end Chip8
