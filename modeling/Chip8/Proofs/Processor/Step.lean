import Chip8.Processor.Execute
import Chip8.Proofs.Instruction.Encoding
import Chip8.Proofs.Memory

/-!
# One step

What `Processor.step` does, said once for all its outcomes.

* `Processor.HasWord`, `Processor.At`: the word that lies at the counter, and the instruction whose word
  it is.
* `step_beyond`, `step_unknown`, `step_at`: the step in the three cases that `step_cases` tells apart.
* `step_eq_ok_iff`: the completed steps.
* `check_eq_error_iff`: the faults of the check, one for each kind of access.
-/

namespace Chip8.Processor

variable {p q : Processor} {i : Instruction} {w : UInt16}

/-! ## The word at the counter -/

/-- The two bytes at the counter lie in memory, and `w` is the word of them, the high byte first. -/
def HasWord (p : Processor) (w : UInt16) : Prop :=
  ∃ high low : UInt8, p.memory[p.counter.toNat]? = some high ∧
    p.memory[p.counter.toNat + 1]? = some low ∧ w.toNat = 256 * high.toNat + low.toNat

/-- The word of the instruction lies at the counter. -/
def At (p : Processor) (i : Instruction) : Prop := p.HasWord i.encode

theorem toNat_wordAt (m : Memory) (a : Nat) :
    (m.wordAt a).toNat = 256 * (m.byteAt a).toNat + (m.byteAt (a + 1)).toNat := by
  have hhigh := (m.byteAt a).toNat_lt
  have hlow := (m.byteAt (a + 1)).toNat_lt
  exact UInt16.toNat_ofNat_of_lt' (by unfold UInt16.size; omega)

theorem hasWord_iff :
    p.HasWord w ↔ p.counter.toNat < 4095 ∧ w = p.memory.wordAt p.counter.toNat := by
  constructor
  · rintro ⟨high, low, hhigh, hlow, hw⟩
    have hlt : p.counter.toNat + 1 < 4096 := (Vector.getElem?_eq_some_iff.mp hlow).1
    refine ⟨by omega, UInt16.toNat_inj.mp ?_⟩
    rw [Memory.getElem?_of_lt _ (by omega)] at hhigh
    rw [Memory.getElem?_of_lt _ hlt] at hlow
    cases hhigh
    cases hlow
    rw [hw, toNat_wordAt]
  · rintro ⟨hlt, rfl⟩
    exact ⟨_, _, Memory.getElem?_of_lt _ (by omega), Memory.getElem?_of_lt _ (by omega),
      toNat_wordAt _ _⟩

theorem At.counter_lt (h : p.At i) : p.counter.toNat < 4095 := (hasWord_iff.mp h).1

theorem At.decode?_eq (h : p.At i) :
    Instruction.decode? (p.memory.wordAt p.counter.toNat) = some i := by
  rw [Instruction.decode?_eq_some_iff]
  exact (hasWord_iff.mp h).2

/-- An instruction lies at the counter after its two bytes were written there. -/
theorem at_of_write {m : Memory} {place : Nat} {high low : UInt8} (hplace : place < 4095)
    (hcounter : p.counter.toNat = place) (hmemory : p.memory = (m.write place high).write (place + 1) low)
    (hword : i.encode.toNat = 256 * high.toNat + low.toNat) : p.At i := by
  refine ⟨high, low, ?_, ?_, hword⟩
  · have hlt : place < 4096 := by omega
    rw [hcounter, hmemory, Vector.getElem?_eq_getElem hlt, Memory.getElem_write _ _ _ hlt,
      if_neg (by omega), Memory.getElem_write _ _ _ hlt, if_pos rfl]
  · have hlt : place + 1 < 4096 := by omega
    rw [hcounter, hmemory, Vector.getElem?_eq_getElem hlt, Memory.getElem_write _ _ _ hlt, if_pos rfl]

/-! ## The fetch -/

/-- The processor with the counter past the instruction. -/
def advance (p : Processor) : Processor := { p with counter := p.counter + 2 }

@[simp] theorem advance_stack (p : Processor) : p.advance.stack = p.stack := rfl

@[simp] theorem advance_counter (p : Processor) : p.advance.counter = p.counter + 2 := rfl

@[simp] theorem advance_register (p : Processor) (x : Register) :
    p.advance.register x = p.register x := rfl

@[simp] theorem advance_keyIs (p : Processor) (x : Register) (down : Bool) :
    p.advance.keyIs x down = p.keyIs x down := by
  unfold keyIs
  rw [advance_register]
  rfl

@[simp] theorem check_advance (p : Processor) (i : Instruction) : p.advance.check i = p.check i := by
  cases i <;> rfl

theorem toNat_counter_add_two (h : p.counter.toNat < 4095) :
    (p.counter + 2).toNat = p.counter.toNat + 2 := by
  rw [UInt16.toNat_add]
  exact Nat.mod_eq_of_lt (by show p.counter.toNat + 2 < 65536; omega)

theorem checkRange_eq_ok_iff {start count : Nat} :
    checkRange start count = .ok () ↔ Memory.Within start count := by
  rw [← Memory.firstOutside?_eq_none_iff, checkRange]
  cases Memory.firstOutside? start count <;> simp

theorem not_within_of_checkRange {start count : Nat} {f : Fault}
    (h : checkRange start count = .error f) : ¬ Memory.Within start count := by
  intro hw
  rw [checkRange_eq_ok_iff.mpr hw] at h
  cases h

theorem checkRange_eq_error_iff {start count : Nat} {f : Fault} :
    checkRange start count = .error f ↔
      ∃ a, IsLeast {b | (start ≤ b ∧ b < start + count) ∧ 4095 < b} a ∧ f = .outOfBounds a := by
  simp only [← Memory.firstOutside?_eq_some_iff, checkRange]
  cases Memory.firstOutside? start count with
  | none => simp
  | some a => simp [eq_comm]

theorem fetch_of_lt (h : p.counter.toNat < 4095) :
    p.fetch = .ok (p.advance, p.memory.wordAt p.counter.toNat) := by
  rw [fetch, checkRange_eq_ok_iff.mpr (Or.inr (by omega))]
  rfl

theorem fetch_of_le (h : 4095 ≤ p.counter.toNat) :
    p.fetch = .error (.outOfBounds (max p.counter.toNat 4096)) := by
  have hrange : checkRange p.counter.toNat 2 = .error (.outOfBounds (max p.counter.toNat 4096)) := by
    rw [checkRange, Memory.firstOutside?, if_pos (by unfold Memory.size; omega)]
    rfl
  rw [fetch, hrange]
  rfl

theorem fetch_eq_ok_iff :
    p.fetch = .ok (q, w) ↔
      p.counter.toNat < 4095 ∧ q = p.advance ∧ w = p.memory.wordAt p.counter.toNat := by
  rcases Nat.lt_or_ge p.counter.toNat 4095 with hlt | hge
  · rw [fetch_of_lt hlt]
    simp [hlt, eq_comm]
  · rw [fetch_of_le hge]
    simp [Nat.not_lt.mpr hge]

/-! ## The step -/

theorem step_beyond (h : 4095 ≤ p.counter.toNat) :
    p.step = .error (.outOfBounds (max p.counter.toNat 4096)) := by
  rw [step, fetch_of_le h]
  rfl

theorem step_unknown (h : p.HasWord w) (hw : ∀ i : Instruction, i.encode ≠ w) :
    p.step = .error (.unknownOpcode w) := by
  obtain ⟨hlt, rfl⟩ := hasWord_iff.mp h
  have hnone := Instruction.decode?_eq_none_iff.mpr hw
  rw [step, fetch_of_lt hlt]
  simp only [bind, Except.bind, hnone]
  rfl

theorem step_at (h : p.At i) : p.step = (p.check i).map fun _ => (p.advance.apply i, i) := by
  rw [step, fetch_of_lt h.counter_lt]
  simp only [bind, Except.bind, h.decode?_eq, execute, check_advance]
  cases p.check i <;> rfl

/-- Where a step can be: beyond memory, at a word of no instruction, or at an instruction. -/
theorem step_cases (p : Processor) :
    4095 ≤ p.counter.toNat ∨ (∃ w, p.HasWord w ∧ ∀ i : Instruction, i.encode ≠ w) ∨ ∃ i, p.At i := by
  rcases Nat.lt_or_ge p.counter.toNat 4095 with hlt | hge
  · have hword : p.HasWord (p.memory.wordAt p.counter.toNat) := hasWord_iff.mpr ⟨hlt, rfl⟩
    by_cases hi : ∃ i : Instruction, i.encode = p.memory.wordAt p.counter.toNat
    · obtain ⟨i, hi⟩ := hi
      exact Or.inr (Or.inr ⟨i, by rw [At, hi]; exact hword⟩)
    · exact Or.inr (Or.inl ⟨_, hword, fun i h => hi ⟨i, h⟩⟩)
  · exact Or.inl hge

/-- A step is completed when the instruction at the counter passes its check. -/
theorem step_eq_ok_iff :
    p.step = .ok (q, i) ↔ p.At i ∧ p.check i = .ok () ∧ q = p.advance.apply i := by
  constructor
  · intro h
    rcases p.step_cases with hbeyond | ⟨w, hword, hw⟩ | ⟨j, hj⟩
    · rw [step_beyond hbeyond] at h
      cases h
    · rw [step_unknown hword hw] at h
      cases h
    · rw [step_at hj] at h
      cases hcheck : p.check j with
      | error f => rw [hcheck] at h; cases h
      | ok _ =>
        rw [hcheck] at h
        cases h
        exact ⟨hj, hcheck, rfl⟩
  · rintro ⟨hi, hcheck, rfl⟩
    rw [step_at hi, hcheck]
    rfl

/-- At an instruction only its check can fail. -/
theorem step_at_eq_error_iff {f : Fault} (h : p.At i) : p.step = .error f ↔ p.check i = .error f := by
  rw [step_at h]
  cases p.check i <;> simp [Except.map]

/-! ## The check -/

/-- The instruction reads or writes the byte at the place, by way of I. -/
def Touches (p : Processor) (i : Instruction) (a : Nat) : Prop :=
  match i with
  | .draw _ _ rows => p.index.toNat ≤ a ∧ a < p.index.toNat + rows
  | .storeDecimal _ => p.index.toNat ≤ a ∧ a ≤ p.index.toNat + 2
  | .storeRegs last | .loadRegs last => p.index.toNat ≤ a ∧ a ≤ p.index.toNat + last
  | _ => False

theorem touches_iff {a : Nat} :
    p.Touches i a ↔ p.index.toNat ≤ a ∧ a < p.index.toNat + span i := by
  cases i <;> simp only [Touches, span, false_iff] <;> omega

theorem check_call (p : Processor) (target : Address) :
    p.check (.call target) =
      if 16 ≤ p.stack.depth then .error (.stackOverflow target) else .ok () := rfl

theorem check_ret (p : Processor) :
    p.check .ret = if p.stack.depth = 0 then .error .stackUnderflow else .ok () := rfl

/-- All instructions but those of the stack ask for a range of memory, which can be empty. -/
theorem check_range (p : Processor) (hcall : ∀ target, i ≠ .call target) (hret : i ≠ .ret) :
    p.check i = checkRange p.index.toNat (span i) := by
  cases i with
  | call target => exact absurd rfl (hcall target)
  | ret => exact absurd rfl hret
  | _ => rfl

theorem execute_of_check (h : p.check i = .ok ()) : p.execute i = .ok (p.apply i) := by
  rw [execute, h]
  rfl

/-- The faults of the check: the stack is full or empty, or memory ends within the range. -/
theorem check_eq_error_iff {f : Fault} (hdepth : p.stack.depth ≤ 16) :
    p.check i = .error f ↔
      (∃ target, i = .call target ∧ p.stack.depth = 16 ∧ f = .stackOverflow target) ∨
      (i = .ret ∧ p.stack.depth = 0 ∧ f = .stackUnderflow) ∨
      ∃ a, IsLeast {b | p.Touches i b ∧ 4095 < b} a ∧ f = .outOfBounds a := by
  have hempty : ∀ a, ¬ IsLeast {b : Nat | False ∧ 4095 < b} a := fun a h => h.1.1
  by_cases hcall : ∃ target, i = .call target
  · obtain ⟨target, rfl⟩ := hcall
    have hfull : 16 ≤ p.stack.depth ↔ p.stack.depth = 16 := by omega
    simp only [check_call, hfull, Touches, hempty]
    by_cases h : p.stack.depth = 16 <;> simp [h, eq_comm]
  by_cases hret : i = .ret
  · subst hret
    simp only [check_ret, Touches, hempty]
    by_cases h : p.stack.depth = 0 <;> simp [h, eq_comm]
  · rw [check_range p (fun target h => hcall ⟨target, h⟩) hret, checkRange_eq_error_iff]
    simp only [touches_iff, hret, false_and, false_or]
    constructor
    · exact Or.inr
    · rintro (⟨target, h, -⟩ | h)
      · exact absurd ⟨target, h⟩ hcall
      · exact h

end Chip8.Processor
