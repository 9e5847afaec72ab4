/-!
# Instructions

The 34 kinds of instruction of the machine, with operands that are in range by their type: a
register is one of sixteen, a byte has eight bits, an address twelve. The nine that combine two
registers share the constructor `arith` and differ in its `ArithOp`.
-/

namespace Chip8

/-- A value of four bits. -/
abbrev Nibble := Fin 16

/-- One of the registers V0 to VF. -/
abbrev Register := Fin 16

/-- The place of a byte in memory, a value of twelve bits. -/
abbrev Address := Fin 4096

/-- V0, the register that offsets a jump. -/
def Register.offset : Register := 0

/-- VF, the register in which results are flagged. -/
def Register.flag : Register := 15

/-- What an instruction does with two registers X and Y; the result goes to X. -/
inductive ArithOp where
  /-- The value of Y. -/
  | copy
  | or
  | and
  | xor
  /-- The sum, flagged when it does not fit in a byte. -/
  | add
  /-- X less Y, flagged when nothing is borrowed. -/
  | sub
  /-- Y moved right by one bit, flagged with the bit that falls out. -/
  | shiftRight
  /-- Y less X, flagged when nothing is borrowed. -/
  | subFrom
  /-- Y moved left by one bit, flagged with the bit that falls out. -/
  | shiftLeft
  deriving DecidableEq, Repr

/-- A decoded instruction. -/
inductive Instruction where
  /-- Switch every pixel off. -/
  | clearScreen
  /-- Go back to the instruction after the latest call. -/
  | ret
  | jump (target : Address)
  | call (target : Address)
  /-- Skip the next instruction if VX equals a constant. -/
  | skipEq (x : Register) (value : UInt8)
  /-- Skip the next instruction if VX differs from a constant. -/
  | skipNe (x : Register) (value : UInt8)
  /-- Skip the next instruction if VX equals VY. -/
  | skipEqReg (x y : Register)
  /-- Skip the next instruction if VX differs from VY. -/
  | skipNeReg (x y : Register)
  | set (x : Register) (value : UInt8)
  /-- Add a constant to VX, without a flag. -/
  | add (x : Register) (value : UInt8)
  | arith (op : ArithOp) (x y : Register)
  /-- Point I at an address. -/
  | setIndex (target : Address)
  /-- Jump to an address plus V0. -/
  | jumpOffset (base : Address)
  /-- Draw a random byte, keep the bits of a mask, and store it in VX. -/
  | random (x : Register) (mask : UInt8)
  /-- Draw the sprite of some rows that I points at, at column VX and line VY. -/
  | draw (x y : Register) (rows : Nibble)
  /-- Skip the next instruction if the key VX is held down. -/
  | skipKeyDown (x : Register)
  /-- Skip the next instruction if the key VX is up. -/
  | skipKeyUp (x : Register)
  | getDelay (x : Register)
  /-- Wait until the key VX is held down. -/
  | awaitKey (x : Register)
  | setDelay (x : Register)
  | setSound (x : Register)
  /-- Add VX to I, flagged when I is beyond the last address. -/
  | addIndex (x : Register)
  /-- Point I at the glyph of the hexadecimal digit VX. -/
  | pointGlyph (x : Register)
  /-- Store the three decimal digits of VX from I on. -/
  | storeDecimal (x : Register)
  /-- Store V0 to VX from I on. -/
  | storeRegs (last : Register)
  /-- Load V0 to VX from I on. -/
  | loadRegs (last : Register)
  deriving DecidableEq, Repr

/-- Whether the effect of the instruction can be seen on the screen. -/
def Instruction.changesScreen : Instruction → Bool
  | .clearScreen | .draw .. => true
  | _ => false

end Chip8
