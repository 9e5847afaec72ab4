import Chip8.Instruction.Encoding

/-!
# Words and instructions

`Instruction.encode` and `Instruction.decode?` read the same table in opposite directions.

* `toNat_wordXYN`, `toNat_wordXNN`, `toNat_wordNNN`: the digits of a word, as a number.
* `decode?_encode`: the word of an instruction decodes to it.
* `encode_of_decode?`: a word that decodes to an instruction is the word of it.
* `decode?_eq_some_iff`: both at once, so `decode?` fails exactly on the words of no instruction.
* `decode_eq_ok_iff`, `decode_eq_error_iff`, `decode_of_not_word`: the same for all integers.
-/

namespace Chip8

namespace ArithOp

theorem code_lt (op : ArithOp) : op.code < 16 := by
  cases op <;> decide

theorem ofCode?_code (op : ArithOp) : ofCode? op.code = some op := by
  cases op <;> rfl

theorem code_of_ofCode? {c : Nat} {op : ArithOp} (h : ofCode? c = some op) : op.code = c := by
  unfold ofCode? at h
  split at h <;> cases h <;> rfl

end ArithOp

namespace Instruction

/-! ## The digits of a word -/

section Digits

variable {f n nn : Nat} (x y : Register) (a : Address)

theorem toNat_wordXYN (hf : f < 16) (hn : n < 16) :
    (wordXYN f x y n).toNat = 4096 * f + 256 * x + 16 * y + n := by
  have hx := x.isLt
  have hy := y.isLt
  exact UInt16.toNat_ofNat_of_lt' (by unfold UInt16.size; omega)

theorem toNat_wordXNN (hf : f < 16) (hn : nn < 256) :
    (wordXNN f x nn).toNat = 4096 * f + 256 * x + nn := by
  have hx := x.isLt
  exact UInt16.toNat_ofNat_of_lt' (by unfold UInt16.size; omega)

theorem toNat_wordNNN (hf : f < 16) : (wordNNN f a).toNat = 4096 * f + a := by
  have ha := a.isLt
  exact UInt16.toNat_ofNat_of_lt' (by unfold UInt16.size; omega)

/-- The digits of a word of the form `fXYn`. -/
theorem digits_wordXYN (hf : f < 16) (hn : n < 16) :
    (wordXYN f x y n).toNat / 4096 = f ∧ digitX (wordXYN f x y n).toNat = x ∧
      digitY (wordXYN f x y n).toNat = y ∧ (wordXYN f x y n).toNat % 16 = n := by
  have hx := x.isLt
  have hy := y.isLt
  rw [toNat_wordXYN x y hf hn]
  refine ⟨by omega, Fin.ext ?_, Fin.ext ?_, by omega⟩
  · show (4096 * f + 256 * x + 16 * y + n) / 256 % 16 = x
    omega
  · show (4096 * f + 256 * x + 16 * y + n) / 16 % 16 = y
    omega

/-- The digits of a word of the form `fXnn`. -/
theorem digits_wordXNN (hf : f < 16) (hn : nn < 256) :
    (wordXNN f x nn).toNat / 4096 = f ∧ digitX (wordXNN f x nn).toNat = x ∧
      (wordXNN f x nn).toNat % 256 = nn := by
  have hx := x.isLt
  rw [toNat_wordXNN x hf hn]
  refine ⟨by omega, Fin.ext ?_, by omega⟩
  show (4096 * f + 256 * x + nn) / 256 % 16 = x
  omega

/-- The digits of a word of the form `fNNN`. -/
theorem digits_wordNNN (hf : f < 16) :
    (wordNNN f a).toNat / 4096 = f ∧ addressOf (wordNNN f a).toNat = a := by
  have ha := a.isLt
  rw [toNat_wordNNN a hf]
  refine ⟨by omega, Fin.ext ?_⟩
  show (4096 * f + a) % 4096 = a
  omega

theorem toNat_constantOf (w : Nat) : (constantOf w).toNat = w % 256 :=
  UInt8.toNat_ofNat_of_lt' (Nat.mod_lt _ (by decide))

theorem constantOf_wordXNN (v : UInt8) (hf : f < 16) : constantOf (wordXNN f x v.toNat).toNat = v := by
  rw [constantOf, (digits_wordXNN x hf v.toNat_lt).2.2, UInt8.ofNat_toNat]

end Digits

/-! ## A word from its digits -/

section Word

variable {w : UInt16} {f : Nat} (h : w.toNat / 4096 = f)
include h

theorem wordXYN_digits : wordXYN f (digitX w.toNat) (digitY w.toNat) (w.toNat % 16) = w := by
  have hw := w.toNat_lt
  apply UInt16.toNat_inj.mp
  rw [toNat_wordXYN _ _ (by omega) (by omega)]
  simp only [digitX, digitY]
  omega

theorem wordXNN_digits : wordXNN f (digitX w.toNat) (w.toNat % 256) = w := by
  have hw := w.toNat_lt
  apply UInt16.toNat_inj.mp
  rw [toNat_wordXNN _ (by omega) (by omega)]
  simp only [digitX]
  omega

theorem wordXNN_constant : wordXNN f (digitX w.toNat) (constantOf w.toNat).toNat = w := by
  rw [toNat_constantOf, wordXNN_digits h]

theorem wordNNN_digits : wordNNN f (addressOf w.toNat) = w := by
  have hw := w.toNat_lt
  apply UInt16.toNat_inj.mp
  rw [toNat_wordNNN _ (by omega)]
  simp only [addressOf]
  omega

end Word

/-! ## From the instruction to the word and back -/

theorem decode?_encode (i : Instruction) : decode? i.encode = some i := by
  cases i with
  | clearScreen | ret => rfl
  | jump a | call a | setIndex a | jumpOffset a => simp [encode, decode?, digits_wordNNN]
  | skipEq x v | skipNe x v | set x v | add x v | random x v =>
    simp [encode, decode?, digits_wordXNN, v.toNat_lt, constantOf_wordXNN]
  | skipEqReg x y | skipNeReg x y => simp [encode, decode?, digits_wordXYN]
  | arith op x y => simp [encode, decode?, digits_wordXYN, op.code_lt, op.ofCode?_code]
  | draw x y n => simp [encode, decode?, digits_wordXYN, digitN]
  | skipKeyDown x | skipKeyUp x => simp [encode, decode?, digits_wordXNN]
  | getDelay x | awaitKey x | setDelay x | setSound x | addIndex x | pointGlyph x | storeDecimal x
  | storeRegs x | loadRegs x => simp [encode, decode?, digits_wordXNN, ofServiceCode?]

theorem encode_of_ofServiceCode? {i : Instruction} {x : Register} {nn : Nat}
    (h : ofServiceCode? x nn = some i) : i.encode = wordXNN 0xF x nn := by
  unfold ofServiceCode? at h
  split at h <;> cases h <;> rfl

theorem encode_of_decode? {w : UInt16} {i : Instruction} (h : decode? w = some i) : i.encode = w := by
  unfold decode? at h
  dsimp only at h
  -- One case for each family, then one where the first digit is none.
  split at h
  next => 
    split at h
    next hw => cases h; exact UInt16.toNat_inj.mp hw.symm
    next hw => cases h; exact UInt16.toNat_inj.mp hw.symm
    next => cases h
  next hf => cases h; exact wordNNN_digits hf
  next hf => cases h; exact wordNNN_digits hf
  next hf => cases h; exact wordXNN_constant hf
  next hf => cases h; exact wordXNN_constant hf
  next hf =>
    split at h
    next hn => cases h; simpa only [encode, hn] using wordXYN_digits hf
    next => cases h
  next hf => cases h; exact wordXNN_constant hf
  next hf => cases h; exact wordXNN_constant hf
  next hf =>
    obtain ⟨op, hop, rfl⟩ := Option.map_eq_some_iff.mp h
    simpa only [encode, ArithOp.code_of_ofCode? hop] using wordXYN_digits hf
  next hf =>
    split at h
    next hn => cases h; simpa only [encode, hn] using wordXYN_digits hf
    next => cases h
  next hf => cases h; exact wordNNN_digits hf
  next hf => cases h; exact wordNNN_digits hf
  next hf => cases h; exact wordXNN_constant hf
  next hf => cases h; exact wordXYN_digits hf
  next hf =>
    split at h
    next hn => cases h; simpa only [encode, hn] using wordXNN_digits hf
    next hn => cases h; simpa only [encode, hn] using wordXNN_digits hf
    next => cases h
  next hf => rw [encode_of_ofServiceCode? h, wordXNN_digits hf]
  next => cases h

/-- The instruction of a word is the one whose word it is. -/
theorem decode?_eq_some_iff {w : UInt16} {i : Instruction} : decode? w = some i ↔ i.encode = w := by
  constructor
  · exact encode_of_decode?
  · rintro rfl
    exact decode?_encode i

/-- Decoding fails on exactly the words of no instruction. -/
theorem decode?_eq_none_iff {w : UInt16} : decode? w = none ↔ ∀ i : Instruction, i.encode ≠ w := by
  simp only [Option.eq_none_iff_forall_ne_some, ne_eq, decode?_eq_some_iff]

/-! ## All integers -/

variable {w : UInt16} {i : Instruction} {value : Int}

theorem decode_of_word (w : UInt16) :
    decode w.toNat = (decode? w).elim (.error (.unknownOpcode w)) .ok := by
  have hw := w.toNat_lt
  have hword : UInt16.ofNat (w.toNat : Int).toNat = w := by simp
  rw [decode, if_pos ⟨by omega, by omega⟩]
  simp only [hword]
  cases decode? w <;> rfl

theorem decode_of_not_word (h : ¬ (0 ≤ value ∧ value ≤ 0xFFFF)) :
    decode value = .error (.notAWord value) := by
  rw [decode, if_neg (by omega)]

theorem exists_word (h : 0 ≤ value ∧ value ≤ 0xFFFF) : ∃ w : UInt16, (w.toNat : Int) = value := by
  refine ⟨UInt16.ofNat value.toNat, ?_⟩
  rw [UInt16.toNat_ofNat_of_lt' (by unfold UInt16.size; omega)]
  omega

theorem decode_eq_ok_iff : decode w.toNat = .ok i ↔ i.encode = w := by
  rw [decode_of_word, ← decode?_eq_some_iff]
  cases decode? w <;> simp

/-- A word of sixteen bits can only be refused for want of a pattern. -/
theorem decode_eq_error_iff {e : DecodeError} :
    decode w.toNat = .error e ↔ e = .unknownOpcode w ∧ ∀ i : Instruction, i.encode ≠ w := by
  rw [decode_of_word, ← decode?_eq_none_iff]
  cases decode? w <;> simp [eq_comm]

end Instruction

end Chip8
