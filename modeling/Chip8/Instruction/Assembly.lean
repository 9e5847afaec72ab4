import Chip8.Instruction.Basic
import Chip8.Text.Layout

/-!
# Assembly text

An instruction is shown as a statement: a mnemonic, then its operands separated by commas.

* `Operand`: what can stand after a mnemonic, and its text.
* `Instruction.mnemonic`, `Instruction.operands`: the parts of the statement.
* `Instruction.text`: the whole statement, as in `ADD V3, 0x1F`.
-/

namespace Chip8

/-- What can stand after a mnemonic. -/
inductive Operand where
  | register (x : Register)
  | constant (value : UInt8)
  | address (a : Address)
  /-- The number of rows of a sprite. -/
  | rows (n : Nibble)
  /-- The index register itself. -/
  | index
  /-- The memory from the index on. -/
  | atIndex
  | delayTimer
  | soundTimer
  /-- The pressed key. -/
  | key
  /-- The glyph of a digit. -/
  | glyph
  /-- The decimal digits of a byte. -/
  | decimal
  deriving DecidableEq, Repr

/-- Numbers are hexadecimal, apart from the rows of a sprite. -/
def Operand.text : Operand → String
  | .register x => "V" ++ Text.hex 1 x
  | .constant value => "0x" ++ Text.hex 2 value.toNat
  | .address a => "0x" ++ Text.hex 3 a
  | .rows n => Nat.repr n
  | .index => "I"
  | .atIndex => "[I]"
  | .delayTimer => "DT"
  | .soundTimer => "ST"
  | .key => "K"
  | .glyph => "F"
  | .decimal => "B"

/-- The mnemonic of an operation on two registers. -/
def ArithOp.mnemonic : ArithOp → String
  | .copy => "LD"
  | .or => "OR"
  | .and => "AND"
  | .xor => "XOR"
  | .add => "ADD"
  | .sub => "SUB"
  | .shiftRight => "SHR"
  | .subFrom => "SUBN"
  | .shiftLeft => "SHL"

namespace Instruction

/-- The first word of the statement. -/
def mnemonic : Instruction → String
  | .clearScreen => "CLS"
  | .ret => "RET"
  | .jump _ | .jumpOffset _ => "JP"
  | .call _ => "CALL"
  | .skipEq .. | .skipEqReg .. => "SE"
  | .skipNe .. | .skipNeReg .. => "SNE"
  | .add .. | .addIndex _ => "ADD"
  | .arith op _ _ => op.mnemonic
  | .random .. => "RND"
  | .draw .. => "DRW"
  | .skipKeyDown _ => "SKP"
  | .skipKeyUp _ => "SKNP"
  | .set .. | .setIndex _ | .getDelay _ | .awaitKey _ | .setDelay _ | .setSound _ | .pointGlyph _
  | .storeDecimal _ | .storeRegs _ | .loadRegs _ => "LD"

/-- The operands of the statement, the destination first. -/
def operands : Instruction → List Operand
  | .clearScreen | .ret => []
  | .jump a | .call a => [.address a]
  | .jumpOffset a => [.register .offset, .address a]
  | .skipEq x v | .skipNe x v | .set x v | .add x v | .random x v => [.register x, .constant v]
  | .skipEqReg x y | .skipNeReg x y | .arith _ x y => [.register x, .register y]
  | .setIndex a => [.index, .address a]
  | .draw x y n => [.register x, .register y, .rows n]
  | .skipKeyDown x | .skipKeyUp x => [.register x]
  | .getDelay x => [.register x, .delayTimer]
  | .awaitKey x => [.register x, .key]
  | .setDelay x => [.delayTimer, .register x]
  | .setSound x => [.soundTimer, .register x]
  | .addIndex x => [.index, .register x]
  | .pointGlyph x => [.glyph, .register x]
  | .storeDecimal x => [.decimal, .register x]
  | .storeRegs x => [.atIndex, .register x]
  | .loadRegs x => [.register x, .atIndex]

/-- The statement that shows the instruction. -/
def text (i : Instruction) : String :=
  match i.operands with
  | [] => i.mnemonic
  | first :: rest => i.mnemonic ++ " " ++ first.text ++ String.join (rest.map (", " ++ ·.text))

end Instruction

end Chip8
