import Chip8.Proofs.Instruction.Encoding
import Mathlib.Data.List.Forall2

/-!
# The table of patterns

Each kind of instruction has one pattern of four digits, some of them given and the others left to
operands. Decoding accepts the words that fit a pattern, and nothing of a word is lost by it.

* `Slot`, `Instruction.pattern`, `Pattern.Fits`: the table, and the words that fit one of its rows.
* `fits_encode`, `exists_encode_of_fits`: the words that fit a row are the words of its instructions.
* `decode_int_eq_ok_iff`, `decode_int_eq_error_iff`, `fits_iff_decode`: what is decoded, and what is refused.
* `decode_inverts_encode`: decoding and encoding over all integers.
-/

namespace Chip8

/-- A digit of a pattern. -/
inductive Slot where
  | given (digit : Nat)
  /-- The digit of the first register. -/
  | x
  /-- The digit of the second register. -/
  | y
  /-- A digit of a constant or of an address. -/
  | n
  deriving DecidableEq, Repr

instance (digit : Nat) : OfNat Slot digit := ⟨.given digit⟩

/-- Four digits, the first one in front. -/
abbrev Pattern := List Slot

/-- Whether a digit can stand in a slot. -/
def Slot.Takes : Slot → Nat → Prop
  | .given digit, d => d = digit
  | _, _ => True

/-- The four digits of a word. -/
def digitsOf (w : UInt16) : List Nat :=
  [w.toNat / 4096, w.toNat / 256 % 16, w.toNat / 16 % 16, w.toNat % 16]

/-- The digits of the word can stand in the slots of the pattern. -/
def Pattern.Fits (pattern : Pattern) (w : UInt16) : Prop :=
  List.Forall₂ Slot.Takes pattern (digitsOf w)

namespace Instruction

/-- The table of patterns. -/
def pattern : Instruction → Pattern
  | .clearScreen => [0, 0, 0xE, 0]
  | .ret => [0, 0, 0xE, 0xE]
  | .jump _ => [1, .n, .n, .n]
  | .call _ => [2, .n, .n, .n]
  | .skipEq .. => [3, .x, .n, .n]
  | .skipNe .. => [4, .x, .n, .n]
  | .skipEqReg .. => [5, .x, .y, 0]
  | .set .. => [6, .x, .n, .n]
  | .add .. => [7, .x, .n, .n]
  | .arith .copy .. => [8, .x, .y, 0]
  | .arith .or .. => [8, .x, .y, 1]
  | .arith .and .. => [8, .x, .y, 2]
  | .arith .xor .. => [8, .x, .y, 3]
  | .arith .add .. => [8, .x, .y, 4]
  | .arith .sub .. => [8, .x, .y, 5]
  | .arith .shiftRight .. => [8, .x, .y, 6]
  | .arith .subFrom .. => [8, .x, .y, 7]
  | .arith .shiftLeft .. => [8, .x, .y, 0xE]
  | .skipNeReg .. => [9, .x, .y, 0]
  | .setIndex _ => [0xA, .n, .n, .n]
  | .jumpOffset _ => [0xB, .n, .n, .n]
  | .random .. => [0xC, .x, .n, .n]
  | .draw .. => [0xD, .x, .y, .n]
  | .skipKeyDown _ => [0xE, .x, 9, 0xE]
  | .skipKeyUp _ => [0xE, .x, 0xA, 1]
  | .getDelay _ => [0xF, .x, 0, 7]
  | .awaitKey _ => [0xF, .x, 0, 0xA]
  | .setDelay _ => [0xF, .x, 1, 5]
  | .setSound _ => [0xF, .x, 1, 8]
  | .addIndex _ => [0xF, .x, 1, 0xE]
  | .pointGlyph _ => [0xF, .x, 2, 9]
  | .storeDecimal _ => [0xF, .x, 3, 3]
  | .storeRegs _ => [0xF, .x, 5, 5]
  | .loadRegs _ => [0xF, .x, 6, 5]

/-! ## The digits of the words -/

section Digits

variable {f n nn : Nat} (x y : Register) (a : Address)

theorem digitsOf_wordXYN (hf : f < 16) (hn : n < 16) :
    digitsOf (wordXYN f x y n) = [f, x.val, y.val, n] := by
  have hx := x.isLt
  have hy := y.isLt
  simp only [digitsOf, toNat_wordXYN x y hf hn, List.cons.injEq, and_true]
  omega

theorem digitsOf_wordXNN (hf : f < 16) (hn : nn < 256) :
    digitsOf (wordXNN f x nn) = [f, x.val, nn / 16, nn % 16] := by
  have hx := x.isLt
  simp only [digitsOf, toNat_wordXNN x hf hn, List.cons.injEq, and_true]
  omega

theorem digitsOf_wordNNN (hf : f < 16) :
    digitsOf (wordNNN f a) = [f, a.val / 256, a.val / 16 % 16, a.val % 16] := by
  have ha := a.isLt
  simp only [digitsOf, toNat_wordNNN a hf, List.cons.injEq, and_true]
  omega

end Digits

/-! ## Words and patterns -/

variable {i : Instruction} {w : UInt16}

theorem pattern_arith (op : ArithOp) (x y : Register) :
    (arith op x y).pattern = [8, .x, .y, .given op.code] := by
  cases op <;> rfl

theorem fits_iff {a b c d : Slot} :
    Pattern.Fits [a, b, c, d] w ↔ a.Takes (w.toNat / 4096) ∧ b.Takes (w.toNat / 256 % 16) ∧
      c.Takes (w.toNat / 16 % 16) ∧ d.Takes (w.toNat % 16) := by
  simp [Pattern.Fits, digitsOf]

/-- The word of an instruction fits its pattern. -/
theorem fits_encode (i : Instruction) : i.pattern.Fits i.encode := by
  unfold Pattern.Fits
  cases i with
  | clearScreen | ret => simp [pattern, encode, digitsOf, Slot.Takes]
  | jump a | call a | setIndex a | jumpOffset a =>
    simp [pattern, encode, digitsOf_wordNNN, Slot.Takes]
  | skipEq x v | skipNe x v | set x v | add x v | random x v =>
    simp [pattern, encode, digitsOf_wordXNN, v.toNat_lt, Slot.Takes]
  | skipEqReg x y | skipNeReg x y => simp [pattern, encode, digitsOf_wordXYN, Slot.Takes]
  | arith op x y => simp [pattern_arith, encode, digitsOf_wordXYN, op.code_lt, Slot.Takes]
  | draw x y n => simp [pattern, encode, digitsOf_wordXYN, Slot.Takes]
  | skipKeyDown x | skipKeyUp x | getDelay x | awaitKey x | setDelay x | setSound x | addIndex x
  | pointGlyph x | storeDecimal x | storeRegs x | loadRegs x =>
    simp [pattern, encode, digitsOf_wordXNN, Slot.Takes]

section Word

variable {f c d : Nat}

theorem wordNNN_of_fits (h : Pattern.Fits [.given f, .n, .n, .n] w) :
    wordNNN f (addressOf w.toNat) = w :=
  wordNNN_digits (fits_iff.mp h).1

theorem wordXNN_of_fits (h : Pattern.Fits [.given f, .x, .n, .n] w) :
    wordXNN f (digitX w.toNat) (constantOf w.toNat).toNat = w :=
  wordXNN_constant (fits_iff.mp h).1

theorem wordXYN_of_fits (h : Pattern.Fits [.given f, .x, .y, .given d] w) :
    wordXYN f (digitX w.toNat) (digitY w.toNat) d = w := by
  obtain ⟨hf, -, -, hd⟩ := fits_iff.mp h
  have hlast : w.toNat % 16 = d := hd
  rw [← hlast]
  exact wordXYN_digits hf

theorem wordXNN_of_fits_given (h : Pattern.Fits [.given f, .x, .given c, .given d] w) :
    wordXNN f (digitX w.toNat) (16 * c + d) = w := by
  obtain ⟨hf, -, hc, hd⟩ := fits_iff.mp h
  have hlast : w.toNat % 256 = 16 * c + d := by
    simp only [Slot.Takes] at hc hd
    omega
  rw [← hlast]
  exact wordXNN_digits hf

theorem eq_of_fits {a b : Nat} (h : Pattern.Fits [.given a, .given b, .given c, .given d] w) :
    w.toNat = 4096 * a + 256 * b + 16 * c + d := by
  have hw := w.toNat_lt
  obtain ⟨ha, hb, hc, hd⟩ := fits_iff.mp h
  simp only [Slot.Takes] at ha hb hc hd
  omega

end Word

/-- A word that fits the pattern of a kind is the word of an instruction of this kind. -/
theorem exists_encode_of_fits (h : i.pattern.Fits w) :
    ∃ j : Instruction, j.encode = w ∧ j.pattern = i.pattern := by
  cases i with
  | clearScreen => exact ⟨.clearScreen, UInt16.toNat_inj.mp (eq_of_fits h).symm, rfl⟩
  | ret => exact ⟨.ret, UInt16.toNat_inj.mp (eq_of_fits h).symm, rfl⟩
  | jump => exact ⟨.jump _, wordNNN_of_fits h, rfl⟩
  | call => exact ⟨.call _, wordNNN_of_fits h, rfl⟩
  | skipEq => exact ⟨.skipEq _ _, wordXNN_of_fits h, rfl⟩
  | skipNe => exact ⟨.skipNe _ _, wordXNN_of_fits h, rfl⟩
  | skipEqReg => exact ⟨.skipEqReg _ _, wordXYN_of_fits h, rfl⟩
  | skipNeReg => exact ⟨.skipNeReg _ _, wordXYN_of_fits h, rfl⟩
  | set => exact ⟨.set _ _, wordXNN_of_fits h, rfl⟩
  | add => exact ⟨.add _ _, wordXNN_of_fits h, rfl⟩
  | arith op =>
    rw [pattern_arith] at h ⊢
    exact ⟨.arith op _ _, wordXYN_of_fits h, pattern_arith op _ _⟩
  | setIndex => exact ⟨.setIndex _, wordNNN_of_fits h, rfl⟩
  | jumpOffset => exact ⟨.jumpOffset _, wordNNN_of_fits h, rfl⟩
  | random => exact ⟨.random _ _, wordXNN_of_fits h, rfl⟩
  | draw => exact ⟨.draw _ _ (digitN w.toNat), wordXYN_digits (fits_iff.mp h).1, rfl⟩
  | skipKeyDown => exact ⟨.skipKeyDown _, wordXNN_of_fits_given h, rfl⟩
  | skipKeyUp => exact ⟨.skipKeyUp _, wordXNN_of_fits_given h, rfl⟩
  | getDelay => exact ⟨.getDelay _, wordXNN_of_fits_given h, rfl⟩
  | awaitKey => exact ⟨.awaitKey _, wordXNN_of_fits_given h, rfl⟩
  | setDelay => exact ⟨.setDelay _, wordXNN_of_fits_given h, rfl⟩
  | setSound => exact ⟨.setSound _, wordXNN_of_fits_given h, rfl⟩
  | addIndex => exact ⟨.addIndex _, wordXNN_of_fits_given h, rfl⟩
  | pointGlyph => exact ⟨.pointGlyph _, wordXNN_of_fits_given h, rfl⟩
  | storeDecimal => exact ⟨.storeDecimal _, wordXNN_of_fits_given h, rfl⟩
  | storeRegs => exact ⟨.storeRegs _, wordXNN_of_fits_given h, rfl⟩
  | loadRegs => exact ⟨.loadRegs _, wordXNN_of_fits_given h, rfl⟩

/-! ## All integers -/

variable {value : Int} {e : DecodeError}

theorem decode_int_eq_ok_iff :
    decode value = .ok i ↔ 0 ≤ value ∧ value ≤ 0xFFFF ∧ (i.encode.toNat : Int) = value := by
  by_cases hword : 0 ≤ value ∧ value ≤ 0xFFFF
  · obtain ⟨w, rfl⟩ := exists_word hword
    rw [decode_eq_ok_iff, ← UInt16.toNat_inj]
    omega
  · rw [decode_of_not_word hword]
    simp only [reduceCtorEq, false_iff]
    rintro ⟨hlow, hhigh, -⟩
    exact hword ⟨hlow, hhigh⟩

theorem decode_int_eq_error_iff :
    decode value = .error e ↔
      (∃ w : UInt16, (w.toNat : Int) = value ∧ (∀ i : Instruction, i.encode ≠ w) ∧
        e = .unknownOpcode w) ∨
      ¬ (0 ≤ value ∧ value ≤ 0xFFFF) ∧ e = .notAWord value := by
  by_cases hword : 0 ≤ value ∧ value ≤ 0xFFFF
  · obtain ⟨w, rfl⟩ := exists_word hword
    rw [decode_eq_error_iff]
    constructor
    · rintro ⟨rfl, hnone⟩
      exact Or.inl ⟨w, rfl, hnone, rfl⟩
    · rintro (⟨w', hw', hnone, rfl⟩ | ⟨hout, -⟩)
      · obtain rfl : w' = w := UInt16.toNat_inj.mp (Int.ofNat.inj hw')
        exact ⟨rfl, hnone⟩
      · exact absurd hword hout
  · rw [decode_of_not_word hword]
    constructor
    · intro h
      cases h
      exact Or.inr ⟨hword, rfl⟩
    · rintro (⟨w, rfl, -⟩ | ⟨-, rfl⟩)
      · have hw := w.toNat_lt
        exact absurd ⟨by omega, by omega⟩ hword
      · rfl

/-- The words that fit the pattern of a kind are those that decode to an instruction of this kind. -/
theorem fits_iff_decode :
    i.pattern.Fits w ↔ ∃ j : Instruction, decode w.toNat = .ok j ∧ j.pattern = i.pattern := by
  simp only [decode_eq_ok_iff]
  constructor
  · exact exists_encode_of_fits
  · rintro ⟨j, rfl, hpattern⟩
    rw [← hpattern]
    exact fits_encode j

theorem encode_injective : Function.Injective encode := by
  intro i j h
  have hdecoded := congrArg decode? h
  rw [decode?_encode, decode?_encode] at hdecoded
  exact Option.some.inj hdecoded

/-- **Decoding inverts encoding.** An integer decodes to an instruction exactly when it is a word, and the word
of this instruction. Every other integer is refused: a word because it is the word of no instruction, and
anything else because it is no word; either reason names the integer. The words that fit the pattern of a
kind are those that decode to an instruction of this kind. So different words decode to different
instructions, and different instructions have different words. -/
theorem decode_inverts_encode :
    (∀ i : Instruction, decode i.encode.toNat = .ok i) ∧
    (∀ (value : Int) (i : Instruction), decode value = .ok i ↔
      0 ≤ value ∧ value ≤ 0xFFFF ∧ (i.encode.toNat : Int) = value) ∧
    (∀ (value : Int) (e : DecodeError), decode value = .error e ↔
      (∃ w : UInt16, (w.toNat : Int) = value ∧ (∀ i : Instruction, i.encode ≠ w) ∧
        e = .unknownOpcode w) ∨
      ¬ (0 ≤ value ∧ value ≤ 0xFFFF) ∧ e = .notAWord value) ∧
    (∀ (w : UInt16) (i : Instruction), i.pattern.Fits w ↔
      ∃ j : Instruction, decode w.toNat = .ok j ∧ j.pattern = i.pattern) ∧
    (∀ (value value' : Int) (i : Instruction), decode value = .ok i → decode value' = .ok i →
      value = value') ∧
    Function.Injective encode := by
  refine ⟨fun i => decode_eq_ok_iff.mpr rfl, fun _ _ => decode_int_eq_ok_iff,
    fun _ _ => decode_int_eq_error_iff, fun _ _ => fits_iff_decode, ?_, encode_injective⟩
  intro value value' i h h'
  obtain ⟨-, -, hvalue⟩ := decode_int_eq_ok_iff.mp h
  obtain ⟨-, -, hvalue'⟩ := decode_int_eq_ok_iff.mp h'
  exact hvalue.symm.trans hvalue'

end Instruction

end Chip8
