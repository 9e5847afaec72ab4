import Chip8.Instruction.Basic
import Chip8.Text.Layout

/-!
# Instruction words

An instruction is written as one word of four hexadecimal digits. Read from the left these are the
family, then X, Y and N; the last two digits together are a constant byte NN, the last three an
address NNN.

* `Instruction.encode`: the word of an instruction.
* `Instruction.decode?`: the instruction of a word, `none` when no pattern fits.
* `Instruction.decode`: the same for any integer, with the reason of a refusal.
-/

namespace Chip8

namespace ArithOp

/-- The last digit of the words of the operation. -/
def code : ArithOp → Nat
  | .copy => 0x0
  | .or => 0x1
  | .and => 0x2
  | .xor => 0x3
  | .add => 0x4
  | .sub => 0x5
  | .shiftRight => 0x6
  | .subFrom => 0x7
  | .shiftLeft => 0xE

/-- The operation whose words end in the given digit. -/
def ofCode? : Nat → Option ArithOp
  | 0x0 => some .copy
  | 0x1 => some .or
  | 0x2 => some .and
  | 0x3 => some .xor
  | 0x4 => some .add
  | 0x5 => some .sub
  | 0x6 => some .shiftRight
  | 0x7 => some .subFrom
  | 0xE => some .shiftLeft
  | _ => none

end ArithOp

namespace Instruction

/-- The word with family `f`, registers `x` and `y`, and last digit `n`. -/
def wordXYN (f : Nat) (x y : Register) (n : Nat) : UInt16 :=
  UInt16.ofNat (4096 * f + 256 * x + 16 * y + n)

/-- The word with family `f`, register `x`, and last two digits `nn`. -/
def wordXNN (f : Nat) (x : Register) (nn : Nat) : UInt16 :=
  UInt16.ofNat (4096 * f + 256 * x + nn)

/-- The word with family `f` and address `a`. -/
def wordNNN (f : Nat) (a : Address) : UInt16 :=
  UInt16.ofNat (4096 * f + a)

/-- The word of an instruction. -/
def encode : Instruction → UInt16
  | .clearScreen => 0x00E0
  | .ret => 0x00EE
  | .jump a => wordNNN 0x1 a
  | .call a => wordNNN 0x2 a
  | .skipEq x v => wordXNN 0x3 x v.toNat
  | .skipNe x v => wordXNN 0x4 x v.toNat
  | .skipEqReg x y => wordXYN 0x5 x y 0
  | .set x v => wordXNN 0x6 x v.toNat
  | .add x v => wordXNN 0x7 x v.toNat
  | .arith op x y => wordXYN 0x8 x y op.code
  | .skipNeReg x y => wordXYN 0x9 x y 0
  | .setIndex a => wordNNN 0xA a
  | .jumpOffset a => wordNNN 0xB a
  | .random x v => wordXNN 0xC x v.toNat
  | .draw x y n => wordXYN 0xD x y n
  | .skipKeyDown x => wordXNN 0xE x 0x9E
  | .skipKeyUp x => wordXNN 0xE x 0xA1
  | .getDelay x => wordXNN 0xF x 0x07
  | .awaitKey x => wordXNN 0xF x 0x0A
  | .setDelay x => wordXNN 0xF x 0x15
  | .setSound x => wordXNN 0xF x 0x18
  | .addIndex x => wordXNN 0xF x 0x1E
  | .pointGlyph x => wordXNN 0xF x 0x29
  | .storeDecimal x => wordXNN 0xF x 0x33
  | .storeRegs x => wordXNN 0xF x 0x55
  | .loadRegs x => wordXNN 0xF x 0x65

/-- The second digit of a word. -/
def digitX (w : Nat) : Register := ⟨w / 256 % 16, Nat.mod_lt _ (by decide)⟩

/-- The third digit of a word. -/
def digitY (w : Nat) : Register := ⟨w / 16 % 16, Nat.mod_lt _ (by decide)⟩

/-- The last digit of a word. -/
def digitN (w : Nat) : Nibble := ⟨w % 16, Nat.mod_lt _ (by decide)⟩

/-- The last two digits of a word. -/
def constantOf (w : Nat) : UInt8 := UInt8.ofNat (w % 256)

/-- The last three digits of a word. -/
def addressOf (w : Nat) : Address := ⟨w % 4096, Nat.mod_lt _ (by decide)⟩

/-- The instruction of the family F with register `x` and last two digits `nn`. -/
def ofServiceCode? (x : Register) (nn : Nat) : Option Instruction :=
  match nn with
  | 0x07 => some (.getDelay x)
  | 0x0A => some (.awaitKey x)
  | 0x15 => some (.setDelay x)
  | 0x18 => some (.setSound x)
  | 0x1E => some (.addIndex x)
  | 0x29 => some (.pointGlyph x)
  | 0x33 => some (.storeDecimal x)
  | 0x55 => some (.storeRegs x)
  | 0x65 => some (.loadRegs x)
  | _ => none

/-- The instruction of a word, if one of the patterns fits it. -/
def decode? (word : UInt16) : Option Instruction :=
  let w := word.toNat
  match w / 4096 with
  | 0x0 =>
    match w with
    | 0x00E0 => some .clearScreen
    | 0x00EE => some .ret
    | _ => none
  | 0x1 => some (.jump (addressOf w))
  | 0x2 => some (.call (addressOf w))
  | 0x3 => some (.skipEq (digitX w) (constantOf w))
  | 0x4 => some (.skipNe (digitX w) (constantOf w))
  | 0x5 => if w % 16 = 0 then some (.skipEqReg (digitX w) (digitY w)) else none
  | 0x6 => some (.set (digitX w) (constantOf w))
  | 0x7 => some (.add (digitX w) (constantOf w))
  | 0x8 => (ArithOp.ofCode? (w % 16)).map (.arith · (digitX w) (digitY w))
  | 0x9 => if w % 16 = 0 then some (.skipNeReg (digitX w) (digitY w)) else none
  | 0xA => some (.setIndex (addressOf w))
  | 0xB => some (.jumpOffset (addressOf w))
  | 0xC => some (.random (digitX w) (constantOf w))
  | 0xD => some (.draw (digitX w) (digitY w) (digitN w))
  | 0xE =>
    match w % 256 with
    | 0x9E => some (.skipKeyDown (digitX w))
    | 0xA1 => some (.skipKeyUp (digitX w))
    | _ => none
  | 0xF => ofServiceCode? (digitX w) (w % 256)
  | _ => none

end Instruction

/-- Why an integer is no instruction. -/
inductive DecodeError where
  /-- The integer is not a word of sixteen bits. -/
  | notAWord (value : Int)
  /-- No pattern fits the word. -/
  | unknownOpcode (word : UInt16)
  deriving DecidableEq, Repr

namespace DecodeError

/-- An integer in small hexadecimal digits, its sign in front. -/
def signedHex (value : Int) : String :=
  (if value < 0 then "-0x" else "0x") ++ Text.lowerHex 1 value.natAbs

/-- The reason in words. -/
def message : DecodeError → String
  | .notAWord value => "Instruction word must fit in 16 bits, got " ++ signedHex value
  | .unknownOpcode word => "Unknown opcode 0x" ++ Text.hex 4 word.toNat

end DecodeError

/-- The instruction that an integer stands for. -/
def Instruction.decode (value : Int) : Except DecodeError Instruction :=
  if 0 ≤ value ∧ value < 65536 then
    let word := UInt16.ofNat value.toNat
    match Instruction.decode? word with
    | some i => .ok i
    | none => .error (.unknownOpcode word)
  else .error (.notAWord value)

end Chip8
