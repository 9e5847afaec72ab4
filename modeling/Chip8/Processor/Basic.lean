import Chip8.CallStack
import Chip8.Keypad
import Chip8.Memory
import Chip8.Random
import Chip8.Screen

/-!
# The processor

Everything that instructions can read or change, and what happens to it between instructions: the
timers run down and keys go up and down.

* `Processor.fresh`, `Processor.boot?`: the processor at the start, without and with a program.
* `Processor.tick`: one tick of the two timers.
* `Processor.press`, `Processor.release`: a key goes down or up.
-/

namespace Chip8

/-- The state of the processor. -/
structure Processor where
  memory : Memory
  /-- V0 to VF. -/
  registers : Vector UInt8 16
  /-- The register I, the place that sprites and data are read from. -/
  index : UInt16
  /-- The place of the next instruction. -/
  counter : UInt16
  stack : CallStack
  delay : UInt8
  sound : UInt8
  keypad : Keypad
  screen : Screen
  /-- The key of the random bytes to come. -/
  random : RandomKey
  deriving DecidableEq

namespace Processor

/-- The processor before any program is loaded. -/
def fresh (random : RandomKey) : Processor where
  memory := Memory.blank
  registers := Vector.replicate 16 0
  index := 0
  counter := UInt16.ofNat Memory.programStart
  stack := CallStack.empty
  delay := 0
  sound := 0
  keypad := Keypad.released
  screen := Screen.blank
  random := random

/-- The processor with a program in memory, unless the program is too large. -/
def load? (p : Processor) (rom : Rom) : Option Processor :=
  (p.memory.load? rom).map fun memory => { p with memory }

/-- The processor at the start of a program, unless the program is too large. -/
def boot? (random : RandomKey) (rom : Rom) : Option Processor :=
  (fresh random).load? rom

/-- A timer one tick later; it stays at zero. -/
def countDown (timer : UInt8) : UInt8 :=
  if 0 < timer then timer - 1 else timer

/-- Both timers one tick later. -/
def tick (p : Processor) : Processor :=
  { p with delay := countDown p.delay, sound := countDown p.sound }

/-- The key is held down. -/
def press (p : Processor) (key : Key) : Processor :=
  { p with keypad := p.keypad.put key true }

/-- The key is up. -/
def release (p : Processor) (key : Key) : Processor :=
  { p with keypad := p.keypad.put key false }

/-- The content of a register. -/
def register (p : Processor) (x : Register) : UInt8 := p.registers[x]

/-- Put a byte into a register. -/
def setRegister (p : Processor) (x : Register) (value : UInt8) : Processor :=
  { p with registers := p.registers.set x value }

/-- Put a flag into VF: 1 if it holds, else 0. -/
def setFlag (p : Processor) (flag : Bool) : Processor :=
  p.setRegister Register.flag (if flag then 1 else 0)

end Processor

end Chip8
