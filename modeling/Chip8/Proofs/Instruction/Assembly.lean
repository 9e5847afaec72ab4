import Chip8.Log.Console
import Chip8.Machine.Notice
import Chip8.Proofs.Instruction.Patterns
import Mathlib.Data.List.DropRight

/-!
# Reading assembly text

The text of an instruction leaves nothing out. Its words are a mnemonic and operands, each operand can be read
from its word, and the instruction can be found from the mnemonic and the operands. A line of the log is read
in the same way, since the text of the instruction stands at its end, after two blanks.

* `Operand.ofWord?`, `Instruction.ofStatement?`, `Instruction.ofLine?`: how to read an operand, a statement, and
  the end of a line.
* `Operand.ofWord?_text`, `ofStatement?_operands`, `ofLine?_of_words`: what was written is what is read.
* `wordsOf_text`, `wordsOf_append_blanks`: the words of a statement, and of a line that ends with one.
* `text_unambiguous`: different words of memory have different texts, and the log shows what was executed.
-/

namespace Chip8

open Instruction (digitX digitY digitN constantOf addressOf)

/-! ## Hexadecimal numbers -/

/-- The capital character of a hexadecimal digit. -/
def hexDigit (d : Nibble) : Char := (Nat.digitChar d).toUpper

/-- The digit that a character stands for. -/
def hexDigit? (c : Char) : Option Nibble := (List.finRange 16).find? (hexDigit · = c)

theorem hexDigit?_hexDigit (d : Nibble) : hexDigit? (hexDigit d) = some d := by
  decide +revert

theorem hexDigit_ne (d : Nibble) : hexDigit d ≠ ' ' ∧ hexDigit d ≠ ',' := by
  decide +revert

namespace Text

variable {n : Nat}

theorem toList_hex (width n : Nat) :
    (hex width n).toList = List.replicate (width - (Nat.toDigits 16 n).length) '0' ++
      (Nat.toDigits 16 n).map Char.toUpper := by
  simp [hex, padLeft]

theorem toList_hex_one (h : n < 16) : (hex 1 n).toList = [hexDigit (digitN n)] := by
  simp [toList_hex, Nat.toDigits_of_lt_base h, hexDigit, digitN, Nat.mod_eq_of_lt h]

/-- The last digit stands at the end, behind those of the quotient. -/
theorem toList_hex_succ {width : Nat} (hwidth : 0 < width) (n : Nat) :
    (hex (width + 1) n).toList = (hex width (n / 16)).toList ++ [hexDigit (digitN n)] := by
  rcases Nat.lt_or_ge n 16 with hn | hn
  · -- The quotient is zero, and its only digit is one more zero of the padding.
    obtain ⟨zeros, rfl⟩ := Nat.exists_eq_succ_of_ne_zero hwidth.ne'
    simp [toList_hex, Nat.toDigits_of_lt_base hn, Nat.div_eq_of_lt hn, Nat.mod_eq_of_lt hn, hexDigit, digitN,
      List.replicate_succ']
  · simp [toList_hex, Nat.toDigits_of_base_le (by decide) hn, hexDigit, digitN]

theorem toList_hex_two (h : n < 256) : (hex 2 n).toList = [hexDigit (digitY n), hexDigit (digitN n)] := by
  rw [toList_hex_succ (by decide), toList_hex_one (by omega)]
  rfl

theorem toList_hex_three (h : n < 4096) :
    (hex 3 n).toList = [hexDigit (digitX n), hexDigit (digitY n), hexDigit (digitN n)] := by
  have hx : digitY (n / 16) = digitX n := Fin.ext (by simp only [digitX, digitY]; omega)
  rw [toList_hex_succ (by decide), toList_hex_two (by omega), hx]
  rfl

end Text

namespace Instruction

theorem constantOf_digits (v : UInt8) :
    constantOf (16 * (digitY v.toNat).val + (digitN v.toNat).val) = v := by
  have hv := v.toNat_lt
  have hvalue : (16 * (digitY v.toNat).val + (digitN v.toNat).val) % 256 = v.toNat := by
    simp only [digitY, digitN]
    omega
  rw [constantOf, hvalue, UInt8.ofNat_toNat]

theorem addressOf_digits (a : Address) :
    addressOf (256 * (digitX a).val + 16 * (digitY a).val + (digitN a).val) = a := by
  have ha := a.isLt
  apply Fin.ext
  simp only [addressOf, digitX, digitY, digitN]
  omega

end Instruction

/-! ## Operands -/

/-- A text that can stand between blanks and commas. -/
def IsWord (word : List Char) : Prop := word ≠ [] ∧ ∀ c ∈ word, c ≠ ' ' ∧ c ≠ ','

namespace Operand

theorem toList_register (x : Register) : (register x).text.toList = ['V', hexDigit x] := by
  have hx : digitN x = x := Fin.ext (Nat.mod_eq_of_lt x.isLt)
  simp [text, Text.toList_hex_one x.isLt, hx]

theorem toList_constant (v : UInt8) :
    (constant v).text.toList = ['0', 'x', hexDigit (digitY v.toNat), hexDigit (digitN v.toNat)] := by
  simp [text, Text.toList_hex_two v.toNat_lt]

theorem toList_address (a : Address) :
    (address a).text.toList = ['0', 'x', hexDigit (digitX a), hexDigit (digitY a), hexDigit (digitN a)] := by
  simp [text, Text.toList_hex_three a.isLt]

theorem isWord_text (o : Operand) : IsWord o.text.toList := by
  cases o with
  | register x => simp [IsWord, toList_register, hexDigit_ne]
  | constant v => simp [IsWord, toList_constant, hexDigit_ne]
  | address a => simp [IsWord, toList_address, hexDigit_ne]
  | rows n =>
    rw [text, Nat.toList_repr]
    refine ⟨Nat.toDigits_ne_nil, fun c hc => ?_⟩
    have hdigit := Nat.isDigit_of_mem_toDigits (by decide) (by decide) hc
    constructor <;> rintro rfl <;> simp at hdigit
  | _ => simp [IsWord, text]

/-- The operand that a word stands for. A constant has two digits and an address three, so that neither can
be taken for the other. -/
def ofWord? : List Char → Option Operand
  | ['I'] => some .index
  | ['[', 'I', ']'] => some .atIndex
  | ['D', 'T'] => some .delayTimer
  | ['S', 'T'] => some .soundTimer
  | ['K'] => some .key
  | ['F'] => some .glyph
  | ['B'] => some .decimal
  | ['V', x] => (hexDigit? x).map .register
  | ['0', 'x', y, n] => do
    let y ← hexDigit? y
    let n ← hexDigit? n
    return .constant (constantOf (16 * y + n))
  | ['0', 'x', x, y, n] => do
    let x ← hexDigit? x
    let y ← hexDigit? y
    let n ← hexDigit? n
    return .address (addressOf (256 * x + 16 * y + n))
  | word => ((List.finRange 16).find? fun n : Nibble => (Nat.repr n).toList = word).map .rows

theorem ofWord?_text (o : Operand) : ofWord? o.text.toList = some o := by
  cases o with
  | register x => simp [toList_register, ofWord?, hexDigit?_hexDigit]
  | constant v => simp [toList_constant, ofWord?, hexDigit?_hexDigit, Instruction.constantOf_digits]
  | address a => simp [toList_address, ofWord?, hexDigit?_hexDigit, Instruction.addressOf_digits]
  | rows n => decide +revert
  | _ => rfl

theorem mapM_ofWord? (operands : List Operand) :
    (operands.map (·.text.toList)).mapM ofWord? = some operands := by
  induction operands with
  | nil => rfl
  | cons o rest ih =>
    rw [List.map_cons, List.mapM_cons, ofWord?_text, ih]
    rfl

end Operand

/-! ## Statements -/

namespace ArithOp

/-- All operations on two registers. -/
def all : List ArithOp := [.copy, .or, .and, .xor, .add, .sub, .shiftRight, .subFrom, .shiftLeft]

theorem isWord_mnemonic (op : ArithOp) : IsWord op.mnemonic.toList := by
  cases op <;> simp [IsWord, mnemonic]

end ArithOp

namespace Instruction

/-- The instructions that are written with the given operands. No two of them have the same mnemonic. -/
def withOperands : List Operand → List Instruction
  | [] => [.clearScreen, .ret]
  | [.address a] => [.jump a, .call a]
  | [.register x] => [.skipKeyDown x, .skipKeyUp x]
  | [.register x, .address a] => if x = .offset then [.jumpOffset a] else []
  | [.register x, .constant v] => [.skipEq x v, .skipNe x v, .set x v, .add x v, .random x v]
  | [.register x, .register y] => .skipEqReg x y :: .skipNeReg x y :: ArithOp.all.map (.arith · x y)
  | [.register x, .register y, .rows n] => [.draw x y n]
  | [.register x, .delayTimer] => [.getDelay x]
  | [.register x, .key] => [.awaitKey x]
  | [.register x, .atIndex] => [.loadRegs x]
  | [.index, .address a] => [.setIndex a]
  | [.index, .register x] => [.addIndex x]
  | [.delayTimer, .register x] => [.setDelay x]
  | [.soundTimer, .register x] => [.setSound x]
  | [.glyph, .register x] => [.pointGlyph x]
  | [.decimal, .register x] => [.storeDecimal x]
  | [.atIndex, .register x] => [.storeRegs x]
  | _ => []

/-- The instruction with a mnemonic and operands. -/
def ofStatement? (mnemonic : String) (operands : List Operand) : Option Instruction :=
  (withOperands operands).find? (·.mnemonic = mnemonic)

theorem ofStatement?_operands (i : Instruction) : ofStatement? i.mnemonic i.operands = some i := by
  cases i with
  | arith op x y => cases op <;> rfl
  | _ => rfl

/-- The words of the statement that shows the instruction. -/
def words (i : Instruction) : List (List Char) :=
  i.mnemonic.toList :: i.operands.map (·.text.toList)

theorem isWord_mnemonic (i : Instruction) : IsWord i.mnemonic.toList := by
  cases i with
  | arith op => exact op.isWord_mnemonic
  | _ => simp [IsWord, mnemonic]

theorem isWord_of_mem_words {i : Instruction} : ∀ word ∈ i.words, IsWord word := by
  simp only [words, List.forall_mem_cons, List.forall_mem_map]
  exact ⟨i.isWord_mnemonic, fun o _ => o.isWord_text⟩

end Instruction

/-! ## The words of a line -/

/-- A text without its commas. -/
def bare (s : String) : List Char := s.toList.filter (· ≠ ',')

/-- What stands between the blanks of a line, without commas. -/
def wordsOf (line : String) : List (List Char) := (bare line).splitOn ' '

theorem bare_append (s t : String) : bare (s ++ t) = bare s ++ bare t := by
  simp [bare]

theorem bare_of_isWord {s : String} (h : IsWord s.toList) : bare s = s.toList := by
  rw [bare, List.filter_eq_self]
  exact fun c hc => decide_eq_true (h.2 c hc).2

/-- Two blanks leave an empty word between them. -/
theorem wordsOf_append_blanks (before rest : String) :
    wordsOf (before ++ "  " ++ rest) = wordsOf before ++ [] :: wordsOf rest := by
  have hbare : bare (before ++ "  " ++ rest) = bare before ++ ' ' :: ([] ++ ' ' :: bare rest) := by
    rw [bare_append, bare_append, List.append_assoc]
    rfl
  rw [wordsOf, hbare, List.splitOn_append_cons_self, List.splitOn_append_cons_self, List.splitOn_nil]
  rfl

theorem intercalate_blank (word : List Char) (rest : List (List Char)) :
    [' '].intercalate (word :: rest) = word ++ rest.flatMap (' ' :: ·) := by
  induction rest generalizing word with
  | nil => simp
  | cons next rest ih => simp [ih]

theorem bare_join (operands : List Operand) :
    bare (String.join (operands.map (", " ++ ·.text))) =
      (operands.map (·.text.toList)).flatMap (' ' :: ·) := by
  induction operands with
  | nil => rfl
  | cons o rest ih =>
    rw [List.map_cons, String.join_cons, bare_append, bare_append, bare_of_isWord o.isWord_text, ih]
    rfl

namespace Instruction

theorem bare_text (i : Instruction) : bare i.text = [' '].intercalate i.words := by
  have hmnemonic := bare_of_isWord i.isWord_mnemonic
  rw [words, intercalate_blank, text]
  cases i.operands with
  | nil => simpa using hmnemonic
  | cons first rest =>
    simp only [bare_append, hmnemonic, bare_of_isWord first.isWord_text, bare_join, List.map_cons,
      List.flatMap_cons, List.append_assoc]
    rfl

theorem wordsOf_text (i : Instruction) : wordsOf i.text = i.words := by
  rw [wordsOf, bare_text]
  apply List.splitOn_intercalate
  · intro word hword hblank
    exact ((isWord_of_mem_words word hword).2 ' ' hblank).1 rfl
  · exact List.cons_ne_nil _ _

/-! ## Reading a line -/

/-- The instruction that is shown at the end of a line, after the last empty word. -/
def ofLine? (line : String) : Option Instruction :=
  match (wordsOf line).rtakeWhile (!·.isEmpty) with
  | [] => none
  | mnemonic :: operands => do
    ofStatement? (String.ofList mnemonic) (← operands.mapM Operand.ofWord?)

theorem ofLine?_of_words {line : String} {i : Instruction}
    (h : (wordsOf line).rtakeWhile (!·.isEmpty) = i.words) : ofLine? line = some i := by
  rw [ofLine?, h, words]
  simp only [Operand.mapM_ofWord?, String.ofList_toList]
  exact ofStatement?_operands i

theorem nonempty_of_mem_words {i : Instruction} : ∀ word ∈ i.words, (!word.isEmpty) = true := by
  intro word hword
  simpa using (isWord_of_mem_words word hword).1

theorem ofLine?_text (i : Instruction) : ofLine? i.text = some i := by
  apply ofLine?_of_words
  rw [wordsOf_text, List.rtakeWhile_eq_self_iff]
  exact nonempty_of_mem_words

/-- Whatever stands in front of the two blanks, the instruction after them is read. -/
theorem ofLine?_append_blanks (before : String) (i : Instruction) :
    ofLine? (before ++ "  " ++ i.text) = some i := by
  have hwords : ∀ word ∈ i.words.reverse, (!word.isEmpty) = true :=
    fun word hword => nonempty_of_mem_words word (List.mem_reverse.mp hword)
  apply ofLine?_of_words
  rw [wordsOf_append_blanks, wordsOf_text, List.rtakeWhile, List.reverse_append, List.reverse_cons,
    List.append_assoc, List.takeWhile_append_of_pos hwords]
  simp

example : ofLine? "[   DEBUG][vm] 0x2A8  DRW V1, VE, 5" = some (.draw 1 14 5) := by
  decide +kernel

theorem ofLine?_executed (before : String) (place : UInt16) (i : Instruction) :
    ofLine? (before ++ (Notice.executed place i).text) = some i := by
  have hnotice : (Notice.executed place i).text = "0x" ++ Text.hex 3 place.toNat ++ "  " ++ i.text := rfl
  rw [hnotice, ← String.append_assoc, ← String.append_assoc]
  exact ofLine?_append_blanks _ i

theorem text_injective : Function.Injective text := by
  intro i j h
  have hread := congrArg ofLine? h
  rw [ofLine?_text, ofLine?_text] at hread
  exact Option.some.inj hread

variable {value value' : Int} {i j : Instruction}

theorem text_eq_iff (h : decode value = .ok i) (h' : decode value' = .ok j) :
    i.text = j.text ↔ value = value' := by
  obtain ⟨-, -, rfl⟩ := decode_int_eq_ok_iff.mp h
  obtain ⟨-, -, rfl⟩ := decode_int_eq_ok_iff.mp h'
  rw [text_injective.eq_iff, ← encode_injective.eq_iff, ← UInt16.toNat_inj]
  exact Int.ofNat_inj.symm

/-- **The text of an instruction is unambiguous.** Two integers that decode have the same text only if they are
equal. The instruction, which is its kind and all its operands, can be read from its text, from the notice
that it was executed, whatever stands in front of this notice, and so from the line of any console. -/
theorem text_unambiguous :
    (∀ (value value' : Int) (i j : Instruction), decode value = .ok i → decode value' = .ok j →
      (i.text = j.text ↔ value = value')) ∧
    (∀ i : Instruction, ofLine? i.text = some i) ∧
    (∀ (before : String) (place : UInt16) (i : Instruction),
      ofLine? (before ++ (Notice.executed place i).text) = some i) ∧
    (∀ (console : Console) (elapsed : Float) (level : String) (place : UInt16) (i : Instruction),
      ofLine? (console.line elapsed level (Notice.executed place i).text) = some i) :=
  ⟨fun _ _ _ _ => text_eq_iff, ofLine?_text, ofLine?_executed,
    fun _ _ _ place i => ofLine?_executed _ place i⟩

/-- Storing and loading registers have texts that differ in the order of the operands alone. -/
theorem text_unambiguous_of_transfers :
    decode 0xF555 = .ok (.storeRegs 5) ∧ decode 0xF565 = .ok (.loadRegs 5) ∧
      ((storeRegs 5).text = (loadRegs 5).text ↔ (0xF555 : Int) = 0xF565) ∧
      ofLine? "0x2A8  LD [I], V5" = some (.storeRegs 5) :=
  have hstore : decode 0xF555 = .ok (.storeRegs 5) := by decide
  have hload : decode 0xF565 = .ok (.loadRegs 5) := by decide
  ⟨hstore, hload, text_unambiguous.1 _ _ _ _ hstore hload,
    text_unambiguous.2.2.1 "" 0x2A8 (.storeRegs 5)⟩

end Instruction

end Chip8
