import Chip8.Proofs.CallStack
import Chip8.Proofs.Processor.Step

/-!
# Strict accesses

An instruction that passes its check touches only cells that there are. So nothing depends on what an
access outside would do: a variant of `Processor.apply` whose accesses go to the named cells alone, and
fail outside, has the same result.

* `Screen.spriteOf`: a sprite from the bytes of its rows.
* `Processor.strictApply?`: the variant.
* `strictApply?_eq_apply`: it agrees with `Processor.apply` where the check passes, and else it fails.
-/

namespace Chip8

/-- The pixels of a sprite with the given rows, placed at column `x` and line `y`. -/
def Screen.spriteOf (rows : List UInt8) (x y : Nat) : Screen :=
  Vector.ofFn fun cell =>
    let column := distance width x (cell % width)
    let row := distance height y (cell / width)
    decide (column < 8) && rows[row]?.any fun byte => byte.toNat.testBit (7 - column)

namespace Processor

variable {p : Processor} {i : Instruction}

/-- The registers V0 to VX, in order. -/
def firstRegisters (p : Processor) (last : Register) : List UInt8 :=
  p.registers.toList.take (last + 1)

/-- The effect of an instruction by accesses to the cells that it names, each of which fails if there is
no such cell. Registers and keys are in range by their types. -/
def strictApply? (p : Processor) : Instruction → Option Processor
  | .ret => p.stack.pop?.map fun (stack, address) => { p with stack, counter := address }
  | .call target =>
    (p.stack.push? p.counter).map fun stack => { p with stack, counter := UInt16.ofNat target }
  | .draw x y rows =>
    (p.memory.readAll? p.index.toNat rows).map fun bytes =>
      let sprite := Screen.spriteOf bytes
        ((p.register x).toNat % Screen.width) ((p.register y).toNat % Screen.height)
      { p.setFlag (p.screen.collides sprite) with screen := p.screen.overlay sprite }
  | .storeDecimal x =>
    (p.memory.writeAll? p.index.toNat (decimalDigits (p.register x))).map fun memory =>
      { p with memory }
  | .storeRegs last =>
    (p.memory.writeAll? p.index.toNat (p.firstRegisters last)).map fun memory => { p with memory }
  | .loadRegs last =>
    (p.memory.readAll? p.index.toNat (last + 1)).map fun bytes =>
      { p with registers := Vector.ofFn fun j => bytes.getD j (p.register j) }
  | i => some (p.apply i)

/-! ## The masked lanes -/

/-- The bytes that a store of V0 to VX writes, beyond the registers are those that are there already. -/
theorem getD_storeLanes (p : Processor) (last : Register) (d : Nat) (byte : UInt8) :
    (p.storeLanes last).getD d byte =
      if d ≤ last then p.registers.toList.getD d byte
      else if d < 16 then p.memory.byteAt (p.index.toNat + d) else byte := by
  have hlast := last.isLt
  unfold storeLanes
  rw [List.getD_eq_getElem?_getD, List.getD_eq_getElem?_getD, List.getElem?_map]
  by_cases hd : d < 16
  · rw [List.getElem?_eq_getElem (by simpa using hd)]
    simp only [List.getElem_finRange, Option.map_some, Option.getD_some]
    by_cases hle : d ≤ last
    · rw [if_pos hle, if_pos (by exact hle)]
      simp [register, hd]
    · rw [if_neg hle, if_neg (by exact hle), if_pos hd]
      rfl
  · rw [List.getElem?_eq_none (by simpa using hd), if_neg (by omega), if_neg hd]
    rfl

theorem getD_firstRegisters (p : Processor) (last : Register) (d : Nat) (byte : UInt8) :
    (p.firstRegisters last).getD d byte =
      if d ≤ last then p.registers.toList.getD d byte else byte := by
  unfold firstRegisters
  simp only [List.getD_eq_getElem?_getD, List.getElem?_take]
  split_ifs with h h' h'
  · rfl
  · omega
  · omega
  · rfl

theorem length_firstRegisters (p : Processor) (last : Register) :
    (p.firstRegisters last).length = last + 1 := by
  have hlast := last.isLt
  simp only [firstRegisters, List.length_take, Vector.length_toList]
  omega

/-- The lanes of a store behind VX change nothing: in memory they put back what is there, and beyond it
they are dropped. -/
theorem writeAll_storeLanes (p : Processor) (last : Register) :
    p.memory.writeAll p.index.toNat (p.storeLanes last) =
      p.memory.writeAll p.index.toNat (p.firstRegisters last) := by
  refine Vector.ext fun k hk => ?_
  rw [Memory.getElem_writeAll _ _ _ hk, Memory.getElem_writeAll _ _ _ hk]
  by_cases hlt : k < p.index.toNat
  · rw [if_pos hlt, if_pos hlt]
  · rw [if_neg hlt, if_neg hlt, getD_storeLanes, getD_firstRegisters]
    have hplace : p.index.toNat + (k - p.index.toNat) = k := by omega
    rw [hplace, Memory.byteAt_of_lt _ hk, ite_self]

/-- The registers after a load of V0 to VX, from the bytes in memory alone. -/
theorem loadLanes_eq (p : Processor) (last : Register) :
    p.loadLanes last = Vector.ofFn fun j =>
      (p.memory.bytesFrom p.index.toNat (last + 1)).getD j (p.register j) := by
  unfold loadLanes
  congr 1
  funext j
  rw [List.getD_eq_getElem?_getD, Memory.getElem?_bytesFrom]
  by_cases hj : j ≤ last
  · rw [if_pos hj, if_pos (Nat.lt_succ_of_le hj)]
    rfl
  · rw [if_neg hj, if_neg (fun h => hj (Nat.le_of_lt_succ h))]
    rfl

end Processor

/-- A sprite lights pixels only by the bytes of its own rows. -/
theorem Screen.spriteOf_eq (m : Memory) (start rows x y : Nat) :
    Screen.spriteOf (m.bytesFrom start rows) x y = Screen.sprite m start rows x y := by
  unfold spriteOf sprite spriteLights
  congr 1
  funext cell
  dsimp only
  rw [Bool.and_assoc, Memory.getElem?_bytesFrom]
  congr 1
  split_ifs with hrow
  · rw [decide_eq_true hrow]
    rfl
  · rw [decide_eq_false hrow]
    rfl

namespace Processor

variable {p : Processor} {i : Instruction}

/-! ## Strict and total effects -/

/-- An access that fails outside a range, and there alone, fails exactly when the check of the range does. -/
theorem access_eq_of_range {α : Type} {start count : Nat} {access : Option α} {result : α}
    (hin : Memory.Within start count → access = some result)
    (hout : ¬ Memory.Within start count → access = none) :
    access = (checkRange start count).toOption.map fun _ => result := by
  cases h : checkRange start count with
  | ok _ => exact hin (checkRange_eq_ok_iff.mp h)
  | error f => exact hout (not_within_of_checkRange h)

/-- With the stack in range, the strict accesses of an instruction and its check fail together. -/
theorem strictApply?_eq_check (h0 : 0 ≤ p.stack.depth) (h16 : p.stack.depth ≤ 16) (i : Instruction) :
    p.strictApply? i = (p.check i).toOption.map fun _ => p.apply i := by
  cases i with
  | ret =>
    rw [check_ret]
    show p.stack.pop?.map _ = _
    split_ifs with hempty
    · rw [CallStack.pop?_of_empty _ hempty]
      rfl
    · rw [CallStack.pop?_of_pos _ (by omega) h16]
      rfl
  | call target =>
    rw [check_call]
    show (p.stack.push? p.counter).map _ = _
    split_ifs with hfull
    · rw [CallStack.push?_of_full _ _ hfull]
      rfl
    · rw [CallStack.push?_of_lt _ _ h0 (by omega)]
      rfl
  | draw x y rows =>
    refine access_eq_of_range (fun (hw : Memory.Within p.index.toNat rows) => ?_) (fun hw => ?_)
    · show (p.memory.readAll? p.index.toNat rows).map _ = _
      rw [Memory.readAll?_of_within _ hw, Option.map_some]
      dsimp only
      rw [Screen.spriteOf_eq]
      rfl
    · exact congrArg (Option.map _) (Memory.readAll?_of_not_within _ hw)
  | storeDecimal x =>
    refine access_eq_of_range (fun hw => ?_) (fun hw => ?_)
    · exact congrArg (Option.map _) (Memory.writeAll?_of_within _ hw)
    · exact congrArg (Option.map _) (Memory.writeAll?_of_not_within _ hw)
  | storeRegs last =>
    refine access_eq_of_range (fun hw => ?_) (fun hw => ?_)
    · show (p.memory.writeAll? p.index.toNat (p.firstRegisters last)).map _ = _
      rw [Memory.writeAll?_of_within _ (by rwa [length_firstRegisters]), ← writeAll_storeLanes]
      rfl
    · exact congrArg (Option.map _)
        (Memory.writeAll?_of_not_within _ (by rwa [length_firstRegisters]))
  | loadRegs last =>
    refine access_eq_of_range (fun (hw : Memory.Within p.index.toNat (last + 1)) => ?_) (fun hw => ?_)
    · show (p.memory.readAll? p.index.toNat (last + 1)).map _ = _
      rw [Memory.readAll?_of_within _ hw, Option.map_some, ← loadLanes_eq]
      rfl
    · exact congrArg (Option.map _) (Memory.readAll?_of_not_within _ hw)
  | _ =>
    -- the range of all other instructions is empty, and the check of it passes
    have hw : Memory.Within p.index.toNat 0 := Or.inl rfl
    exact access_eq_of_range (fun _ => rfl) (fun hout => absurd hw hout)

/-- **Accesses after the check are strict.** With the stack in range, strict accesses have the same effect
as the total ones on every instruction that passes its check, and fail on every other. -/
theorem strictApply?_eq_apply (p : Processor) (h0 : 0 ≤ p.stack.depth) (h16 : p.stack.depth ≤ 16)
    (i : Instruction) :
    (p.check i = .ok () → p.strictApply? i = some (p.apply i)) ∧
    (∀ f, p.check i = .error f → p.strictApply? i = none) := by
  have heq := strictApply?_eq_check h0 h16 i
  constructor
  · intro hcheck
    rw [heq, hcheck]
    rfl
  · intro f hcheck
    rw [heq, hcheck]
    rfl

/-- V0 and V1 are stored in the last two bytes, with fourteen of the sixteen lanes beyond memory. -/
theorem strictApply?_eq_apply_at_end :
    let p : Processor := { fresh ⟨0, 0⟩ with index := 0xFFE }
    0 ≤ p.stack.depth ∧ p.stack.depth ≤ 16 ∧ p.check (.storeRegs 1) = .ok () ∧
      p.strictApply? (.storeRegs 1) = some (p.apply (.storeRegs 1)) := by
  intro p
  have h0 : 0 ≤ p.stack.depth := by decide
  have h16 : p.stack.depth ≤ 16 := by decide
  have hcheck : p.check (.storeRegs 1) = .ok () := rfl
  exact ⟨h0, h16, hcheck, (strictApply?_eq_apply p h0 h16 (.storeRegs 1)).1 hcheck⟩

end Processor

end Chip8
