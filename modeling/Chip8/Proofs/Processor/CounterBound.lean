import Chip8.Proofs.CallStack
import Chip8.Proofs.Processor.Effect
import Chip8.Proofs.Processor.Run

/-!
# The counter never wraps

The counter has sixteen bits and memory twelve. A run can bring the counter out of memory, by a skip of the
last word or by a jump with an offset, but then the next fetch fails. The largest place that it can get to,
`0x10FE`, is that of a jump to the largest address plus the largest byte.

* `Processor.nextPlace`: the place after an instruction, computed with integers.
* `Processor.Bounded`: the invariant of runs.
* `counter_of_run`: the counter over a run, and what is added to it and taken from it.
-/

namespace Chip8.Processor

variable {p q r : Processor} {i : Instruction}

/-- The place that the instruction at the counter leads to, computed with integers. -/
def nextPlace (p : Processor) (i : Instruction) : Int :=
  match i with
  | .jump target | .call target => target
  | .ret => p.stack.pop.2.toNat
  | .jumpOffset base => base + (p.register .offset).toNat
  | .awaitKey x => p.counter.toNat + 2 - if p.keyIs x false then 2 else 0
  | i => p.counter.toNat + 2 + if p.skips i then 2 else 0

/-- The invariant of runs. The stack is part of it, since a return goes to an address in the stack. -/
structure Bounded (p : Processor) : Prop where
  counter : p.counter.toNat ≤ 0x10FE
  stack : p.stack.Masked

/-! ## Sixteen bits are enough -/

theorem toNat_address (a : Address) : (UInt16.ofNat a).toNat = a :=
  UInt16.toNat_ofNat_of_lt' (by have := a.isLt; unfold UInt16.size; omega)

theorem toNat_address_add (base : Address) (offset : UInt8) :
    (UInt16.ofNat base + offset.toUInt16).toNat = base + offset.toNat := by
  have hbase := base.isLt
  have hoffset := offset.toNat_lt
  rw [UInt16.toNat_add, toNat_address, UInt8.toNat_toUInt16]
  exact Nat.mod_eq_of_lt (by omega)

theorem toNat_counter_skip (h : p.counter.toNat < 4095) :
    (p.counter + 2 + 2).toNat = p.counter.toNat + 4 := by
  rw [UInt16.toNat_add, toNat_counter_add_two h]
  exact Nat.mod_eq_of_lt (by show p.counter.toNat + 2 + 2 < 65536; omega)

theorem counter_add_two_sub_two (p : Processor) : p.counter + 2 - 2 = p.counter :=
  UInt16.add_sub_cancel p.counter 2

/-- When a fetch succeeds, all that the step can then compute for the counter is exact. -/
theorem exact_of_fetch {w : UInt16} (h : p.fetch = .ok (q, w)) :
    q.counter.toNat = p.counter.toNat + 2 ∧
    (q.counter + 2).toNat = q.counter.toNat + 2 ∧
    ((q.counter - 2).toNat : Int) = q.counter.toNat - 2 ∧
    ∀ base : Address, (UInt16.ofNat base + (q.register .offset).toUInt16).toNat =
      base + (q.register .offset).toNat := by
  obtain ⟨hlt, rfl, -⟩ := fetch_eq_ok_iff.mp h
  have hpast := toNat_counter_add_two hlt
  refine ⟨hpast, ?_, ?_, fun base => toNat_address_add base _⟩
  · rw [advance_counter, toNat_counter_skip hlt, hpast]
  · rw [advance_counter, counter_add_two_sub_two, hpast]
    omega

/-! ## One step -/

theorem skips_advance (p : Processor) (i : Instruction) : p.advance.skips i = p.skips i := by
  cases i <;> simp only [skips, advance_register, advance_keyIs]

/-- A completed step leads to the place that the integers give. -/
theorem toNat_counter_apply (h : p.At i) :
    ((p.advance.apply i).counter.toNat : Int) = p.nextPlace i := by
  have hlt := h.counter_lt
  rw [apply_counter]
  unfold nextPlace
  cases i with
  | jump target | call target => exact congrArg Nat.cast (toNat_address target)
  | ret => rfl
  | jumpOffset base =>
    exact (congrArg Nat.cast (toNat_address_add base _)).trans (Int.natCast_add _ _)
  | awaitKey x =>
    simp only [advance_keyIs, advance_counter]
    split_ifs
    · rw [counter_add_two_sub_two]
      omega
    · rw [toNat_counter_add_two hlt]
      omega
  | _ =>
    simp only [skips_advance, advance_counter]
    split_ifs
    · rw [toNat_counter_skip hlt]
      omega
    · rw [toNat_counter_add_two hlt]
      omega

theorem nextPlace_le (h : p.Bounded) (hat : p.At i) : p.nextPlace i ≤ 0x10FE := by
  have hlt := hat.counter_lt
  unfold nextPlace
  cases i with
  | jump target | call target =>
    have htarget := target.isLt
    dsimp only
    omega
  | ret =>
    have hreturn := h.stack.pop.2
    dsimp only
    omega
  | jumpOffset base =>
    have hbase := base.isLt
    have hoffset := (p.register .offset).toNat_lt
    dsimp only
    omega
  | _ =>
    dsimp only
    split_ifs <;> omega

/-- The invariant is kept by every completed step. -/
theorem Bounded.step (h : p.Bounded) (hstep : p.step = .ok (q, i)) : q.Bounded := by
  obtain ⟨hat, -, rfl⟩ := step_eq_ok_iff.mp hstep
  constructor
  · have hplace := toNat_counter_apply hat
    have hle := nextPlace_le h hat
    omega
  · rw [apply_stack]
    cases i with
    | call target => exact h.stack.push _
    | ret => exact h.stack.pop.1
    | _ => exact h.stack

theorem bounded_run (h : p.Bounded) (actions : List Action) : (p.run actions).Bounded :=
  run_invariant (fun q _ => q.Bounded) h (fun _ _ _ _ hq hstep => hq.step hstep)
    (fun _ _ _ _ _ hq => ⟨hq.counter, hq.stack⟩) actions

/-! ## Runs -/

/-- **The counter never wraps.** After any actions from the start of a program the counter is at most
`0x10FE`. When the next fetch succeeds, all that a step can then compute is exact: the place past the
instruction, the place past the one behind it, the way back to the instruction, and every address plus V0.
And the next step, if it is completed, leads to the place that the integers give. -/
theorem counter_of_run {random : RandomKey} {rom : Rom} (hboot : boot? random rom = some p)
    (actions : List Action) :
    let q := p.run actions
    q.counter.toNat ≤ 0x10FE ∧
    (∀ r w, q.fetch = .ok (r, w) →
      r.counter.toNat = q.counter.toNat + 2 ∧
      (r.counter + 2).toNat = r.counter.toNat + 2 ∧
      ((r.counter - 2).toNat : Int) = r.counter.toNat - 2 ∧
      ∀ base : Address, (UInt16.ofNat base + (r.register .offset).toUInt16).toNat =
        base + (r.register .offset).toNat) ∧
    ∀ r i, q.step = .ok (r, i) → (r.counter.toNat : Int) = q.nextPlace i := by
  intro q
  obtain ⟨memory, hp⟩ := boot?_eq_some hboot
  have hstart : p.Bounded := by
    rw [hp]
    exact ⟨show (0x200 : Nat) ≤ 0x10FE by decide, CallStack.masked_empty⟩
  have hq : q.Bounded := bounded_run hstart actions
  refine ⟨hq.counter, fun r w hfetch => exact_of_fetch hfetch, fun r i hstep => ?_⟩
  obtain ⟨hat, -, rfl⟩ := step_eq_ok_iff.mp hstep
  exact toNat_counter_apply hat

/-- The limit is reached, by a jump to the last address plus a V0 of 255. -/
theorem counter_of_run_at_limit :
    ∃ p, boot? ⟨0, 0⟩ [0x60, 0xFF, 0xBF, 0xFF] = some p ∧
      (p.run [.step]).counter.toNat ≤ 0x10FE ∧
      ∃ r, (p.run [.step]).step = .ok (r, .jumpOffset 0xFFF) ∧ (r.counter.toNat : Int) = 0x10FE := by
  have hrun : (boot? ⟨0, 0⟩ [0x60, 0xFF, 0xBF, 0xFF]).map
      (fun p => ((p.run [.step]).step.toOption.map Prod.snd, (p.run [.step]).register .offset)) =
      some (some (.jumpOffset 0xFFF), 0xFF) := by decide +kernel
  obtain ⟨p, hp, hafter⟩ := Option.map_eq_some_iff.mp hrun
  obtain ⟨hmade, hoffset⟩ := Prod.mk.inj hafter
  obtain ⟨hbound, -, hplace⟩ := counter_of_run hp [.step]
  cases hstep : (p.run [.step]).step with
  | error fault =>
    rw [hstep] at hmade
    cases hmade
  | ok made =>
    obtain ⟨r, i⟩ := made
    rw [hstep] at hmade
    cases hmade
    refine ⟨p, hp, hbound, r, hstep, ?_⟩
    rw [hplace r _ hstep]
    unfold nextPlace
    dsimp only
    rw [hoffset]
    rfl

end Chip8.Processor
