import Chip8.Proofs.CallStack
import Chip8.Proofs.Processor.Effect
import Chip8.Proofs.Processor.Run
import Mathlib.Data.List.Induction

/-!
# Open calls

The call stack of a processor holds the return addresses of the calls that are open, and these can be read
off the completed steps.

* `openCalls`: the return addresses of the open calls after a number of completed steps.
* `Balanced`: steps that return from their own calls only, and from all of them.
* `stack_of_run`: the stack after a run.
-/

namespace Chip8

/-- The return addresses of the open calls after one more completed step, oldest first. -/
def noteCall (calls : List Nat) (step : Executed) : List Nat :=
  match step.instruction with
  | .call _ => calls ++ [(step.place.toNat + 2) % 4096]
  | .ret => calls.dropLast
  | _ => calls

/-- The return addresses of the open calls after completed steps, oldest first. -/
def openCalls (steps : List Executed) : List Nat := steps.foldl noteCall []

/-- The number of calls among completed steps. -/
def callCount (steps : List Executed) : Nat :=
  steps.countP fun step => step.instruction matches .call _

/-- The number of returns among completed steps. -/
def returnCount (steps : List Executed) : Nat :=
  steps.countP fun step => step.instruction matches .ret

/-- At no point there are more returns than calls, and in the end there are as many. -/
def Balanced (steps : List Executed) : Prop :=
  (∀ first, first <+: steps → returnCount first ≤ callCount first) ∧
    returnCount steps = callCount steps

/-! ## Balanced steps -/

theorem openCalls_concat (steps : List Executed) (step : Executed) :
    openCalls (steps ++ [step]) = noteCall (openCalls steps) step := by
  simp [openCalls]

/-- While there are at least as many calls as returns, the calls open at the start stay open, and behind
them lie as many as there are calls left. -/
theorem foldl_noteCall (calls : List Nat) (steps : List Executed)
    (h : ∀ first, first <+: steps → returnCount first ≤ callCount first) :
    ∃ later, steps.foldl noteCall calls = calls ++ later ∧
      later.length + returnCount steps = callCount steps := by
  induction steps using List.reverseRecOn with
  | nil => exact ⟨[], by simp, rfl⟩
  | append_singleton steps step ih =>
    obtain ⟨later, hfold, hcount⟩ := ih fun first hfirst => h first (hfirst.trans (List.prefix_append _ _))
    have hle := h (steps ++ [step]) (List.prefix_refl _)
    rw [List.foldl_append, List.foldl_cons, List.foldl_nil, hfold]
    cases hi : step.instruction with
    | call target =>
      have hcalls : callCount (steps ++ [step]) = callCount steps + 1 := by simp [callCount, hi]
      have hreturns : returnCount (steps ++ [step]) = returnCount steps := by simp [returnCount, hi]
      refine ⟨later ++ [(step.place.toNat + 2) % 4096], by simp [noteCall, hi], ?_⟩
      rw [List.length_append, List.length_singleton]
      omega
    | ret =>
      have hcalls : callCount (steps ++ [step]) = callCount steps := by simp [callCount, hi]
      have hreturns : returnCount (steps ++ [step]) = returnCount steps + 1 := by
        simp [returnCount, hi]
      have hpos : 0 < later.length := by omega
      refine ⟨later.dropLast, ?_, ?_⟩
      · simp [noteCall, hi, List.dropLast_append_of_ne_nil (List.ne_nil_of_length_pos hpos)]
      · rw [List.length_dropLast]
        omega
    | _ =>
      have hcalls : callCount (steps ++ [step]) = callCount steps := by simp [callCount, hi]
      have hreturns : returnCount (steps ++ [step]) = returnCount steps := by simp [returnCount, hi]
      exact ⟨later, by simp [noteCall, hi], by omega⟩

/-- Balanced steps leave the open calls as they are. -/
theorem openCalls_balanced (before steps : List Executed) (h : Balanced steps) :
    openCalls (before ++ steps) = openCalls before := by
  obtain ⟨later, hfold, hcount⟩ := foldl_noteCall (openCalls before) steps h.1
  have hnil : later = [] := List.eq_nil_of_length_eq_zero (by have := h.2; omega)
  rw [openCalls, List.foldl_append]
  rw [hnil, List.append_nil] at hfold
  exact hfold

namespace Processor

variable {p q r : Processor} {i : Instruction} {calls : List Nat}

/-! ## One step -/

/-- A completed step changes the stack as it changes the list of open calls, and a return goes to the
latest of them. -/
theorem holds_of_step (h : q.stack.Holds calls) (hstep : q.step = .ok (r, i)) :
    r.stack.Holds (noteCall calls ⟨q.counter, i⟩) ∧
      (i = .ret → calls.getLast? = some r.counter.toNat) := by
  obtain ⟨hat, hcheck, rfl⟩ := step_eq_ok_iff.mp hstep
  rw [apply_stack, apply_counter]
  cases i with
  | call target =>
    rw [check_call] at hcheck
    split_ifs at hcheck with hfull
    have hlt : calls.length < 16 := by
      have := h.depth
      omega
    refine ⟨?_, nofun⟩
    have hpush := h.push hlt (q.counter + 2)
    rwa [toNat_counter_add_two hat.counter_lt] at hpush
  | ret =>
    rw [check_ret] at hcheck
    split_ifs at hcheck with hempty
    rcases List.eq_nil_or_concat' calls with rfl | ⟨init, address, rfl⟩
    · exact absurd h.depth hempty
    · obtain ⟨hpop, haddress⟩ := CallStack.Holds.pop h
      refine ⟨by simpa [noteCall] using hpop, fun _ => ?_⟩
      simp [← haddress]
  | _ => exact ⟨h, nofun⟩

/-- The invariant of runs: the stack holds the open calls. -/
theorem holds_run (h : p.stack.Holds []) (actions : List Action) :
    (p.run actions).stack.Holds (openCalls (p.trace actions)) := by
  refine run_invariant (fun q steps => q.stack.Holds (openCalls steps)) h ?_ ?_ actions
  · intro q r i steps hq hstep
    have hnext := (holds_of_step hq hstep).1
    rwa [← openCalls_concat] at hnext
  · intro q steps delay sound keypad hq
    exact hq

/-- A call fails on a full stack, and in no other way. -/
theorem step_call_eq_error_iff {target : Address} (h : q.stack.Holds calls) (hat : q.At (.call target))
    (f : Fault) : q.step = .error f ↔ f = .stackOverflow target ∧ calls.length = 16 := by
  have hbound := h.bound
  have hfull : 16 ≤ q.stack.depth ↔ calls.length = 16 := by
    rw [h.depth]
    omega
  simp only [step_at_eq_error_iff hat, check_call, hfull]
  split_ifs with hlen <;> simp [hlen, eq_comm]

/-- A return fails on an empty stack, and in no other way. -/
theorem step_ret_eq_error_iff (h : q.stack.Holds calls) (hat : q.At .ret) (f : Fault) :
    q.step = .error f ↔ f = .stackUnderflow ∧ calls.length = 0 := by
  have hempty : q.stack.depth = 0 ↔ calls.length = 0 := by
    rw [h.depth]
    omega
  simp only [step_at_eq_error_iff hat, check_ret, hempty]
  split_ifs with hlen <;> simp [hlen, eq_comm]

/-! ## Runs -/

/-- **The call stack over a run.** After any actions from the start of a program, the stack holds the return
addresses of the open calls: at most sixteen, oldest first, in front of clear cells. A return that is
completed next goes to the latest of them. A call that is next fails when there are sixteen, and a
return when there is none. Whatever happens next, if its completed calls and returns are balanced then
the stack is the same afterwards. -/
theorem stack_of_run {random : RandomKey} {rom : Rom} (hboot : boot? random rom = some p)
    (actions : List Action) :
    let q := p.run actions
    let calls := openCalls (p.trace actions)
    (q.stack.depth = calls.length ∧ calls.length ≤ 16 ∧
      q.stack.cells.toList.map UInt16.toNat = calls ++ List.replicate (16 - calls.length) 0) ∧
    (∀ r, q.step = .ok (r, .ret) → calls.getLast? = some r.counter.toNat) ∧
    (∀ target, q.At (.call target) →
      ∀ f, q.step = .error f ↔ f = .stackOverflow target ∧ calls.length = 16) ∧
    (q.At .ret → ∀ f, q.step = .error f ↔ f = .stackUnderflow ∧ calls.length = 0) ∧
    ∀ more, Balanced (q.trace more) → (q.run more).stack = q.stack := by
  intro q calls
  obtain ⟨memory, hp⟩ := boot?_eq_some hboot
  have hstart : p.stack.Holds [] := by
    rw [hp]
    exact CallStack.holds_empty
  have hq : q.stack.Holds calls := holds_run hstart actions
  refine ⟨⟨hq.depth, hq.bound, hq.cells⟩, fun r hr => (holds_of_step hq hr).2 rfl,
    fun target hat => step_call_eq_error_iff hq hat, step_ret_eq_error_iff hq, fun more hmore => ?_⟩
  have hmoved := holds_run hstart (actions ++ more)
  rw [run_append, trace_append, openCalls_balanced _ _ hmore] at hmoved
  exact hmoved.unique hq

/-- Two calls, each to the word behind it. -/
theorem stack_of_run_nested :
    ∃ p, boot? ⟨0, 0⟩ [0x22, 0x02, 0x22, 0x04] = some p ∧
      (p.run [.step, .step]).stack.depth = 2 ∧
      (p.run [.step, .step]).stack.cells.toList.map UInt16.toNat =
        [0x202, 0x204] ++ List.replicate 14 0 := by
  have hrun : (boot? ⟨0, 0⟩ [0x22, 0x02, 0x22, 0x04]).map
      (fun p => openCalls (p.trace [.step, .step])) = some [0x202, 0x204] := by decide +kernel
  obtain ⟨p, hp, hcalls⟩ := Option.map_eq_some_iff.mp hrun
  obtain ⟨⟨hdepth, -, hcells⟩, -⟩ := stack_of_run hp [.step, .step]
  rw [hcalls] at hdepth hcells
  exact ⟨p, hp, hdepth, hcells⟩

end Processor

end Chip8
