import Chip8.Proofs.Processor.CounterBound

/-!
# A call that returns at once

A subroutine whose first instruction is a return gives back the processor as it was, with the counter past the
call. The stack holds addresses of twelve bits, and this is where it shows: past a call in the last word of
memory the counter has thirteen, so this one call does not come back to where it left off but to the start
of memory.

* `CallStack.Holds.pop_push`: what a push and a pop leave of a stack, and of an address.
* `step_call`, `step_ret`: a call with a free cell, and a return with an open call.
* `ret_past_call_iff`: which calls come back behind themselves.
-/

namespace Chip8

/-- With a free cell, a pop undoes a push and gives the low twelve bits of the address. -/
theorem CallStack.Holds.pop_push {s : CallStack} {calls : List Nat} (h : s.Holds calls)
    (hfree : calls.length < 16) (address : UInt16) :
    (s.push address).pop.1 = s ∧ (s.push address).pop.2.toNat = address.toNat % 4096 := by
  obtain ⟨hsame, haddress⟩ := (h.push hfree address).pop
  exact ⟨hsame.unique h, haddress⟩

namespace Processor

variable {p : Processor} {calls : List Nat} {target : Address}

/-! ## The two steps -/

theorem step_call (hstack : p.stack.Holds calls) (hfree : calls.length < 16)
    (hat : p.At (.call target)) :
    p.step = .ok ({ p with stack := p.stack.push (p.counter + 2), counter := UInt16.ofNat target },
      .call target) := by
  have hdepth := hstack.depth
  refine step_eq_ok_iff.mpr ⟨hat, ?_, rfl⟩
  rw [check_call, if_neg (by omega)]

theorem step_ret {address : Nat} (hstack : p.stack.Holds (calls ++ [address])) (hat : p.At .ret) :
    p.step = .ok ({ p with stack := p.stack.pop.1, counter := p.stack.pop.2 }, .ret) := by
  have hdepth := hstack.depth
  rw [List.length_append, List.length_singleton] at hdepth
  refine step_eq_ok_iff.mpr ⟨hat, ?_, rfl⟩
  rw [check_ret, if_neg (by omega)]

/-- The counter is at a return when it has gone to an address where the bytes of one lie. -/
theorem at_ret_of_bytes (hcounter : p.counter = UInt16.ofNat target)
    (hhigh : p.memory[target.val]? = some 0x00) (hlow : p.memory[target.val + 1]? = some 0xEE) :
    p.At .ret := by
  have hplace : p.counter.toNat = target.val := by rw [hcounter, toNat_address]
  refine ⟨0x00, 0xEE, ?_, ?_, rfl⟩
  · rw [hplace]
    exact hhigh
  · rw [hplace]
    exact hlow

/-- Both steps are completed, and of the place past the call the low twelve bits come back. -/
theorem ret_of_call (hstack : p.stack.Holds calls) (hfree : calls.length < 16)
    (hcall : p.At (.call target)) (hhigh : p.memory[target.val]? = some 0x00)
    (hlow : p.memory[target.val + 1]? = some 0xEE) :
    ∃ q, p.step = .ok (q, .call target) ∧
      q.step = .ok ({ p with counter := UInt16.ofNat ((p.counter.toNat + 2) % 4096) }, .ret) := by
  obtain ⟨hsame, haddress⟩ := hstack.pop_push hfree (p.counter + 2)
  have hback : (p.stack.push (p.counter + 2)).pop.2 =
      UInt16.ofNat ((p.counter.toNat + 2) % 4096) := by
    apply UInt16.toNat_inj.mp
    rw [haddress, toNat_counter_add_two hcall.counter_lt]
    exact (UInt16.toNat_ofNat_of_lt' (by unfold UInt16.size; omega)).symm
  let called : Processor :=
    { p with stack := p.stack.push (p.counter + 2), counter := UInt16.ofNat target }
  have hopen : called.stack.Holds (calls ++ [(p.counter + 2).toNat % 4096]) :=
    hstack.push hfree (p.counter + 2)
  have hat : called.At .ret := at_ret_of_bytes rfl hhigh hlow
  refine ⟨called, step_call hstack hfree hcall, ?_⟩
  rw [step_ret hopen hat]
  show Except.ok (({ p with
    stack := (p.stack.push (p.counter + 2)).pop.1
    counter := (p.stack.push (p.counter + 2)).pop.2 } : Processor), Instruction.ret) = _
  rw [hsame, hback]

/-! ## Back behind the call -/

/-- Twelve bits are enough for the place past an instruction, unless it lies in the last word of memory. -/
theorem low_bits_eq_iff (h : p.counter.toNat < 4095) :
    UInt16.ofNat ((p.counter.toNat + 2) % 4096) = p.counter + 2 ↔ p.counter.toNat < 0xFFE := by
  have hlow : (UInt16.ofNat ((p.counter.toNat + 2) % 4096)).toNat = (p.counter.toNat + 2) % 4096 :=
    UInt16.toNat_ofNat_of_lt' (by unfold UInt16.size; omega)
  rw [← UInt16.toNat_inj, hlow, toNat_counter_add_two h]
  omega

/-- **A call that returns at once.** With a free cell in the stack and clear cells behind the open calls, a call
whose target is a return is completed, and so is the return. Both together change nothing but the counter,
which gets the low twelve bits of the place past the call. So they lead past the call, as every
instruction does that does not jump, unless the call lies in the last word of memory. From there they
lead to the start of memory, where any other instruction leads out of it and the next step fails. -/
theorem ret_past_call_iff (hstack : p.stack.Holds calls) (hfree : calls.length < 16)
    (hcall : p.At (.call target)) (hhigh : p.memory[target.val]? = some 0x00)
    (hlow : p.memory[target.val + 1]? = some 0xEE) :
    ∃ q r, p.step = .ok (q, .call target) ∧ q.step = .ok (r, .ret) ∧
      r = { p with counter := r.counter } ∧ r.counter.toNat = (p.counter.toNat + 2) % 4096 ∧
      (r = p.advance ↔ p.counter.toNat < 0xFFE) ∧
      p.advance.counter.toNat = p.counter.toNat + 2 ∧
      (p.counter.toNat = 0xFFE → p.advance.step = .error (.outOfBounds 4096)) := by
  have hlt := hcall.counter_lt
  have hpast := toNat_counter_add_two hlt
  obtain ⟨q, hq, hr⟩ := ret_of_call hstack hfree hcall hhigh hlow
  refine ⟨q, _, hq, hr, rfl, ?_, ?_, hpast, fun hlast => ?_⟩
  · exact UInt16.toNat_ofNat_of_lt' (by unfold UInt16.size; omega)
  · rw [← low_bits_eq_iff hlt]
    constructor
    · intro h
      exact congrArg counter h
    · intro h
      rw [h]
      rfl
  · have hbeyond : p.advance.counter.toNat = 4096 := by
      rw [advance_counter, hpast, hlast]
    rw [step_beyond (by omega), hbeyond]
    rfl

/-- A call of a return in the last word of memory. -/
theorem exists_call_in_last_word :
    ∃ p : Processor, p.stack.Holds [] ∧ p.At (.call 0x300) ∧ p.memory[0x300]? = some 0x00 ∧
      p.memory[0x301]? = some 0xEE ∧ p.counter.toNat = 0xFFE := by
  let memory : Memory :=
    (((Memory.blank.write 0x300 0x00).write 0x301 0xEE).write 0xFFE 0x23).write 0xFFF 0x00
  refine ⟨{ fresh ⟨0, 0⟩ with counter := 0xFFE, memory }, CallStack.holds_empty, ?_, ?_, ?_, rfl⟩
  · exact at_of_write (by decide) rfl rfl (by decide)
  · simp [memory, Memory.write]
  · simp [memory, Memory.write]

theorem ret_past_call_iff_of_last_word :
    ∃ p q r : Processor, p.stack.Holds [] ∧ p.At (.call 0x300) ∧ p.memory[0x300]? = some 0x00 ∧
      p.memory[0x301]? = some 0xEE ∧ p.step = .ok (q, .call 0x300) ∧ q.step = .ok (r, .ret) ∧
      r.counter.toNat = 0 ∧ p.advance.step = .error (.outOfBounds 4096) := by
  obtain ⟨p, hstack, hcall, hhigh, hlow, hlast⟩ := exists_call_in_last_word
  obtain ⟨q, r, hq, hr, -, hcounter, -, -, hfault⟩ :=
    ret_past_call_iff hstack (by decide) hcall hhigh hlow
  rw [hlast] at hcounter
  exact ⟨p, q, r, hstack, hcall, hhigh, hlow, hq, hr, hcounter, hfault hlast⟩

/-- It is not so that a call of a return always leads past the call. -/
theorem not_ret_past_call :
    ¬ ∀ (p : Processor) (calls : List Nat) (target : Address), p.stack.Holds calls → calls.length < 16 →
      p.At (.call target) → p.memory[target.val]? = some 0x00 → p.memory[target.val + 1]? = some 0xEE →
      ∃ q, p.step = .ok (q, .call target) ∧ q.step = .ok ({ p with counter := p.counter + 2 }, .ret) := by
  intro hclaim
  obtain ⟨p, hstack, hcall, hhigh, hlow, hlast⟩ := exists_call_in_last_word
  obtain ⟨q, hq, hr⟩ := ret_of_call hstack (by decide) hcall hhigh hlow
  obtain ⟨q', hq', hr'⟩ := hclaim p [] 0x300 hstack (by decide) hcall hhigh hlow
  cases hq.symm.trans hq'
  have hsame : UInt16.ofNat ((p.counter.toNat + 2) % 4096) = p.counter + 2 := by
    simpa using hr.symm.trans hr'
  have hlt := (low_bits_eq_iff hcall.counter_lt).mp hsame
  omega

end Processor

end Chip8
