import Chip8.Processor.Basic
import Chip8.Processor.Fault

/-!
# Carrying out instructions

A step fetches the word at the counter, decodes it, checks what the instruction is about to touch, and
only then changes anything. So a fault leaves the processor as it was before the fetch.

* `Processor.fetch`: the word at the counter; the counter moves past it.
* `Processor.check`: whether memory and the stack allow the instruction.
* `Processor.apply`: the effect of an instruction that passed the check.
* `Processor.step`: all of this in a row.
-/

namespace Chip8

/-- The result of an arithmetic operation on X and Y, and the flag if it reports one. -/
def ArithOp.result (op : ArithOp) (x y : UInt8) : UInt8 × Option Bool :=
  match op with
  | .copy => (y, none)
  | .or => (x ||| y, none)
  | .and => (x &&& y, none)
  | .xor => (x ^^^ y, none)
  | .add => (x + y, some (255 < x.toNat + y.toNat))
  | .sub => (x - y, some (y ≤ x))
  | .shiftRight => (y >>> 1, some (y.toNat.testBit 0))
  | .subFrom => (y - x, some (x ≤ y))
  | .shiftLeft => (y <<< 1, some (y.toNat.testBit 7))

namespace Processor

/-- A fault if a range of `count` places from `start` on leaves memory. -/
def checkRange (start count : Nat) : Except Fault Unit :=
  match Memory.firstOutside? start count with
  | some place => .error (.outOfBounds place)
  | none => .ok ()

/-- The word at the counter, and the processor with the counter past it. -/
def fetch (p : Processor) : Except Fault (Processor × UInt16) := do
  checkRange p.counter.toNat 2
  return ({ p with counter := p.counter + 2 }, p.memory.wordAt p.counter.toNat)

/-- The number of bytes that the instruction reads or writes from I on. -/
def span : Instruction → Nat
  | .draw _ _ rows => rows
  | .storeDecimal _ => 3
  | .storeRegs last | .loadRegs last => last + 1
  | _ => 0

/-- A fault if memory or the stack does not allow the instruction. -/
def check (p : Processor) (i : Instruction) : Except Fault Unit :=
  match i with
  | .call target => if CallStack.capacity ≤ p.stack.depth then .error (.stackOverflow target) else .ok ()
  | .ret => if p.stack.depth = 0 then .error .stackUnderflow else .ok ()
  | _ => checkRange p.index.toNat (span i)

/-- Move the counter past one more instruction if a condition holds. -/
def skipIf (p : Processor) (condition : Bool) : Processor :=
  if condition then { p with counter := p.counter + 2 } else p

/-- Whether the key that a register names is as asked; a value above 15 names no key. -/
def keyIs (p : Processor) (x : Register) (down : Bool) : Bool :=
  match Key.ofInt? (p.register x).toNat with
  | some key => p.keypad.holds key == down
  | none => false

/-- What a store of V0 to VX puts into the sixteen places from I on: the registers, and behind them what
is there already. -/
def storeLanes (p : Processor) (last : Register) : List UInt8 :=
  (List.finRange 16).map fun j =>
    if j ≤ last then p.register j else p.memory.byteAt (p.index.toNat + j)

/-- The sixteen registers after a load of V0 to VX: the places from I on, and behind them what the
registers hold already. -/
def loadLanes (p : Processor) (last : Register) : Vector UInt8 16 :=
  Vector.ofFn fun j => if j ≤ last then p.memory.byteAt (p.index.toNat + j) else p.register j

/-- The decimal digits of a byte, hundreds first. -/
def decimalDigits (value : UInt8) : List UInt8 :=
  [value / 100, value / 10 % 10, value % 10]

/-- The effect of an instruction. The counter is already past it. Flags are written last, so that they
win over a result in VF. -/
def apply (p : Processor) : Instruction → Processor
  | .clearScreen => { p with screen := Screen.blank }
  | .ret => { p with stack := p.stack.pop.1, counter := p.stack.pop.2 }
  | .jump target => { p with counter := UInt16.ofNat target }
  | .call target => { p with stack := p.stack.push p.counter, counter := UInt16.ofNat target }
  | .skipEq x value => p.skipIf (p.register x == value)
  | .skipNe x value => p.skipIf (p.register x != value)
  | .skipEqReg x y => p.skipIf (p.register x == p.register y)
  | .skipNeReg x y => p.skipIf (p.register x != p.register y)
  | .set x value => p.setRegister x value
  | .add x value => p.setRegister x (p.register x + value)
  | .arith op x y =>
    match op.result (p.register x) (p.register y) with
    | (value, none) => p.setRegister x value
    | (value, some flag) => (p.setRegister x value).setFlag flag
  | .setIndex target => { p with index := UInt16.ofNat target }
  | .jumpOffset base => { p with counter := UInt16.ofNat base + (p.register .offset).toUInt16 }
  | .random x mask => { p.setRegister x (p.random.byte &&& mask) with random := p.random.next }
  | .draw x y rows =>
    let sprite := Screen.sprite p.memory p.index.toNat rows
      ((p.register x).toNat % Screen.width) ((p.register y).toNat % Screen.height)
    { p.setFlag (p.screen.collides sprite) with screen := p.screen.overlay sprite }
  | .skipKeyDown x => p.skipIf (p.keyIs x true)
  | .skipKeyUp x => p.skipIf (p.keyIs x false)
  | .getDelay x => p.setRegister x p.delay
  | .awaitKey x => if p.keyIs x false then { p with counter := p.counter - 2 } else p
  | .setDelay x => { p with delay := p.register x }
  | .setSound x => { p with sound := p.register x }
  | .addIndex x =>
    let sum := p.index + (p.register x).toUInt16
    { p.setFlag (0x0FFF < sum) with index := sum }
  | .pointGlyph x =>
    { p with index := UInt16.ofNat (Memory.glyphStart + (p.register x).toNat % 16 * Memory.glyphSize) }
  | .storeDecimal x =>
    { p with memory := p.memory.writeAll p.index.toNat (decimalDigits (p.register x)) }
  | .storeRegs last => { p with memory := p.memory.writeAll p.index.toNat (p.storeLanes last) }
  | .loadRegs last => { p with registers := p.loadLanes last }

/-- Check an instruction and carry it out. -/
def execute (p : Processor) (i : Instruction) : Except Fault Processor := do
  p.check i
  return p.apply i

/-- Carry out the instruction at the counter. -/
def step (p : Processor) : Except Fault (Processor × Instruction) := do
  let (moved, word) ← p.fetch
  match Instruction.decode? word with
  | none => throw (.unknownOpcode word)
  | some i => return (← moved.execute i, i)

end Processor

end Chip8
