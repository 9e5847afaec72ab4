import Chip8.Processor.Execute
import Mathlib.Tactic.SplitIfs

/-!
# What instructions change

Parts of the processor after `Processor.apply`, whatever the instruction.

* `register_setRegister_of_ne`, `register_setFlag_of_ne`: a write to a register leaves the others alone.
* `apply_stack`: only calls and returns change the stack.
* `Processor.skips`, `apply_counter`: where the counter goes, given that it is past the instruction.
* `apply_screen`: only two instructions change the screen.
* `apply_random`: only one instruction changes the key of the random bytes.
-/

namespace Chip8.Processor

/-! ## The parts of an effect -/

section Parts

variable (p : Processor) (x : Register) (value : UInt8) (flag : Bool)

@[simp] theorem setRegister_stack : (p.setRegister x value).stack = p.stack := rfl

@[simp] theorem setRegister_counter : (p.setRegister x value).counter = p.counter := rfl

@[simp] theorem setRegister_screen : (p.setRegister x value).screen = p.screen := rfl

@[simp] theorem setRegister_random : (p.setRegister x value).random = p.random := rfl

@[simp] theorem setFlag_stack : (p.setFlag flag).stack = p.stack := rfl

@[simp] theorem setFlag_counter : (p.setFlag flag).counter = p.counter := rfl

@[simp] theorem setFlag_screen : (p.setFlag flag).screen = p.screen := rfl

@[simp] theorem setFlag_random : (p.setFlag flag).random = p.random := rfl

@[simp] theorem skipIf_stack : (p.skipIf flag).stack = p.stack := by
  cases flag <;> rfl

@[simp] theorem skipIf_counter :
    (p.skipIf flag).counter = if flag then p.counter + 2 else p.counter := by
  cases flag <;> rfl

@[simp] theorem skipIf_screen : (p.skipIf flag).screen = p.screen := by
  cases flag <;> rfl

@[simp] theorem skipIf_random : (p.skipIf flag).random = p.random := by
  cases flag <;> rfl

variable {x} {z : Register}

theorem register_setRegister_of_ne (hz : z ≠ x) : (p.setRegister x value).register z = p.register z := by
  have hne : x.val ≠ z.val := fun heq => hz (Fin.ext heq.symm)
  exact Vector.getElem_set_ne x.isLt z.isLt hne

theorem register_setRegister_self : (p.setRegister x value).register x = value :=
  Vector.getElem_set_self x.isLt

theorem register_setFlag_self : (p.setFlag flag).register .flag = if flag then 1 else 0 :=
  p.register_setRegister_self _

theorem register_setFlag_of_ne (hz : z ≠ Register.flag) :
    (p.setFlag flag).register z = p.register z :=
  p.register_setRegister_of_ne _ hz

end Parts

/-! ## The stack and the counter -/

/-- Whether the instruction skips the next one. -/
def skips (p : Processor) : Instruction → Bool
  | .skipEq x value => p.register x == value
  | .skipNe x value => p.register x != value
  | .skipEqReg x y => p.register x == p.register y
  | .skipNeReg x y => p.register x != p.register y
  | .skipKeyDown x => p.keyIs x true
  | .skipKeyUp x => p.keyIs x false
  | _ => false

/-- Calls and returns alone change the stack. -/
theorem apply_stack (p : Processor) (i : Instruction) :
    (p.apply i).stack =
      match i with
      | .call _ => p.stack.push p.counter
      | .ret => p.stack.pop.1
      | _ => p.stack := by
  cases i with
  | arith op x y =>
    simp only [apply]
    split <;> rfl
  | awaitKey x =>
    simp only [apply]
    split_ifs <;> rfl
  | _ => simp only [apply, setRegister_stack, setFlag_stack, skipIf_stack]

/-- The counter after an instruction, when it is past the instruction before. -/
theorem apply_counter (p : Processor) (i : Instruction) :
    (p.apply i).counter =
      match i with
      | .jump target | .call target => UInt16.ofNat target
      | .ret => p.stack.pop.2
      | .jumpOffset base => UInt16.ofNat base + (p.register .offset).toUInt16
      | .awaitKey x => if p.keyIs x false then p.counter - 2 else p.counter
      | i => if p.skips i then p.counter + 2 else p.counter := by
  cases i with
  | arith op x y =>
    simp only [apply, skips]
    split <;> rfl
  | awaitKey x =>
    simp only [apply]
    split_ifs <;> rfl
  | skipEq | skipNe | skipEqReg | skipNeReg | skipKeyDown | skipKeyUp => exact skipIf_counter p _
  | _ => simp only [apply, skips, setRegister_counter, setFlag_counter, Bool.false_eq_true, if_false]

/-! ## The screen and the random bytes -/

/-- Clearing the screen and drawing alone change the screen. -/
theorem apply_screen (p : Processor) (i : Instruction) (h : i.changesScreen = false) :
    (p.apply i).screen = p.screen := by
  cases i with
  | clearScreen | draw => cases h
  | arith op x y =>
    simp only [apply]
    split <;> rfl
  | awaitKey x =>
    simp only [apply]
    split_ifs <;> rfl
  | _ => simp only [apply, setRegister_screen, setFlag_screen, skipIf_screen]

/-- A random byte takes the key to the next one, and nothing else changes the key. -/
theorem apply_random (p : Processor) (i : Instruction) :
    (p.apply i).random =
      match i with
      | .random _ _ => p.random.next
      | _ => p.random := by
  cases i with
  | arith op x y =>
    simp only [apply]
    split <;> rfl
  | awaitKey x =>
    simp only [apply]
    split_ifs <;> rfl
  | _ => simp only [apply, setRegister_random, setFlag_random, skipIf_random]

end Chip8.Processor
