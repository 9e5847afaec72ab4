import Chip8.Instruction.Basic

/-!
# Memory

4096 bytes. The glyphs of the sixteen hexadecimal digits lie at `glyphStart`, a program lies from
`programStart` on.

Reading and writing are total: a read past the end gives the last byte, and a write past the end
leaves the memory as it is. Whoever is about to touch a range asks `firstOutside?` before.

* `Memory.byteAt`, `Memory.wordAt`, `Memory.write`, `Memory.writeAll`: the accesses.
* `Memory.firstOutside?`: the first place of a range that memory does not have.
* `Memory.blank`, `Memory.load?`: memory with the glyphs, and with a program.
-/

namespace Chip8

/-- The bytes of a program, at most `Memory.programLimit` of them fit. -/
abbrev Rom := List UInt8

/-- The bytes that instructions address. -/
abbrev Memory := Vector UInt8 4096

namespace Memory

/-- The number of bytes. -/
def size : Nat := 4096

/-- The first byte of a program. -/
def programStart : Nat := 0x200

/-- The largest number of bytes of a program. -/
def programLimit : Nat := size - programStart

/-- The first byte of the glyph of 0. -/
def glyphStart : Nat := 0x050

/-- The number of bytes of a glyph, one for each of its rows. -/
def glyphSize : Nat := 5

/-- The glyphs of the digits from 0 to F, row by row. -/
def glyphs : List UInt8 := [
  0xF0, 0x90, 0x90, 0x90, 0xF0,
  0x20, 0x60, 0x20, 0x20, 0x70,
  0xF0, 0x10, 0xF0, 0x80, 0xF0,
  0xF0, 0x10, 0xF0, 0x10, 0xF0,
  0x90, 0x90, 0xF0, 0x10, 0x10,
  0xF0, 0x80, 0xF0, 0x10, 0xF0,
  0xF0, 0x80, 0xF0, 0x90, 0xF0,
  0xF0, 0x10, 0x20, 0x40, 0x40,
  0xF0, 0x90, 0xF0, 0x90, 0xF0,
  0xF0, 0x90, 0xF0, 0x10, 0xF0,
  0xF0, 0x90, 0xF0, 0x90, 0x90,
  0xE0, 0x90, 0xE0, 0x90, 0xE0,
  0xF0, 0x80, 0x80, 0x80, 0xF0,
  0xE0, 0x90, 0x90, 0x90, 0xE0,
  0xF0, 0x80, 0xF0, 0x80, 0xF0,
  0xF0, 0x80, 0xF0, 0x80, 0x80]

/-- The byte at a place; past the end it is the last byte. -/
def byteAt (m : Memory) (a : Nat) : UInt8 :=
  m[min a 4095]

/-- The word at a place, its high byte first. -/
def wordAt (m : Memory) (a : Nat) : UInt16 :=
  UInt16.ofNat (256 * (m.byteAt a).toNat + (m.byteAt (a + 1)).toNat)

/-- Memory with a byte replaced; past the end nothing changes. -/
def write (m : Memory) (a : Nat) (value : UInt8) : Memory :=
  m.setIfInBounds a value

/-- Memory with bytes written one after the other from a place on. -/
def writeAll (m : Memory) (a : Nat) : List UInt8 → Memory
  | [] => m
  | value :: rest => (m.write a value).writeAll (a + 1) rest

/-- The first place outside memory among `count` places from `start` on, if there is one. -/
def firstOutside? (start count : Nat) : Option Nat :=
  if 0 < count ∧ size < start + count then some (max start size) else none

/-- Memory that holds the glyphs and else zeros. -/
def blank : Memory :=
  writeAll (Vector.replicate 4096 0) glyphStart glyphs

/-- Memory with a program, unless the program is too large. -/
def load? (m : Memory) (rom : Rom) : Option Memory :=
  if programLimit < rom.length then none else some (m.writeAll programStart rom)

end Memory

end Chip8
