import Chip8.Proofs.Processor.CounterBound
import Chip8.Proofs.Processor.StrictAccess

/-!
# Footprints

What a completed step may change, part by part of the processor. All else is as before.

* `Instruction.WritesRegister`: the registers that an instruction may change.
* `Instruction.LeadsTo`: the places that an instruction can lead to.
* `Processor.Footprint`: the changes from one processor to another are those that an instruction may make.
* `footprint_of_step`: the changes of a step.
-/

namespace Chip8

/-! ## What an instruction names -/

/-- The operation reports into VF. -/
def ArithOp.hasFlag : ArithOp → Bool
  | .copy | .or | .and | .xor => false
  | .add | .sub | .shiftRight | .subFrom | .shiftLeft => true

/-- The register is one of those that the instruction may change. -/
def Instruction.WritesRegister (z : Register) : Instruction → Prop
  | .set x _ | .add x _ | .random x _ | .getDelay x => z = x
  | .arith op x _ => z = x ∨ op.hasFlag ∧ z = .flag
  | .draw .. | .addIndex _ => z = .flag
  | .loadRegs last => z ≤ last
  | _ => False

/-- The instruction at a place can lead to another place. Where a return or a jump with an offset leads is not
to be seen from the instruction. -/
def Instruction.LeadsTo (place next : Nat) : Instruction → Prop
  | .jump target | .call target => next = target
  | .ret | .jumpOffset _ => True
  | .skipEq .. | .skipNe .. | .skipEqReg .. | .skipNeReg .. | .skipKeyDown _ | .skipKeyUp _ =>
    next = place + 2 ∨ next = place + 4
  | .awaitKey _ => next = place ∨ next = place + 2
  | _ => next = place + 2

namespace Processor

variable {p q : Processor} {i : Instruction}

/-- Beside the counter, the two processors differ only in what the instruction may change. Where a field is not
given they are the same by definition. -/
structure Footprint (p : Processor) (i : Instruction) (q : Processor) : Prop where
  memory : ∀ a : Nat, q.memory[a]? ≠ p.memory[a]? →
      ((∃ x, i = .storeDecimal x) ∨ ∃ last, i = .storeRegs last) ∧ p.Touches i a := by
    exact fun _ h => absurd rfl h
  registers : ∀ z, q.register z ≠ p.register z → i.WritesRegister z := by
    exact fun _ h => absurd rfl h
  index : q.index ≠ p.index →
      (∃ target, i = .setIndex target) ∨ (∃ x, i = .addIndex x) ∨ ∃ x, i = .pointGlyph x := by
    exact fun h => absurd rfl h
  stack : q.stack ≠ p.stack → i = .ret ∨ ∃ target, i = .call target := by
    exact fun h => absurd rfl h
  delay : q.delay ≠ p.delay → ∃ x, i = .setDelay x := by
    exact fun h => absurd rfl h
  sound : q.sound ≠ p.sound → ∃ x, i = .setSound x := by
    exact fun h => absurd rfl h
  keypad : q.keypad = p.keypad := by
    rfl
  screen : q.screen ≠ p.screen → i = .clearScreen ∨ ∃ x y rows, i = .draw x y rows := by
    exact fun h => absurd rfl h
  random : q.random ≠ p.random → ∃ x mask, i = .random x mask := by
    exact fun h => absurd rfl h

/-! ## Registers and memory -/

theorem eq_of_register_setRegister {x z : Register} {value : UInt8}
    (h : (p.setRegister x value).register z ≠ p.register z) : z = x := by
  by_contra hne
  exact h (p.register_setRegister_of_ne value hne)

theorem eq_of_register_setFlag {z : Register} (flag : Bool)
    (h : (p.setFlag flag).register z ≠ p.register z) : z = .flag :=
  eq_of_register_setRegister h

/-- Writes from a place on change the bytes of their own range only. -/
theorem mem_range_of_writeAll {m : Memory} {start a : Nat} {values : List UInt8}
    (h : (m.writeAll start values)[a]? ≠ m[a]?) : start ≤ a ∧ a < start + values.length := by
  by_contra hout
  apply h
  rcases Nat.lt_or_ge a 4096 with hlt | hge
  · rw [Vector.getElem?_eq_getElem hlt, Vector.getElem?_eq_getElem hlt, Memory.getElem_writeAll _ _ _ hlt]
    split_ifs with hbefore
    · rfl
    · rw [List.getD_eq_default _ _ (by omega)]
  · rw [Vector.getElem?_eq_none hge, Vector.getElem?_eq_none hge]

theorem ArithOp.hasFlag_of_result {op : ArithOp} {x y value : UInt8} {flag : Bool}
    (h : op.result x y = (value, some flag)) : op.hasFlag = true := by
  cases op with
  | copy | or | and | xor => cases congrArg Prod.snd h
  | _ => rfl

/-! ## One instruction -/

theorem footprint_skipIf (p : Processor) (i : Instruction) (condition : Bool) :
    p.Footprint i (p.skipIf condition) := by
  cases condition <;> exact {}

theorem footprint_arith (p : Processor) (op : ArithOp) (x y : Register) :
    p.Footprint (.arith op x y) (p.apply (.arith op x y)) := by
  simp only [apply]
  cases hresult : op.result (p.register x) (p.register y) with
  | mk value flag? =>
    cases flag? with
    | none => exact { registers := fun _ h => Or.inl (eq_of_register_setRegister h) }
    | some flag =>
      refine { registers := fun z h => or_iff_not_imp_right.mpr fun hother => ?_ }
      have hz : z ≠ .flag := fun heq => hother ⟨ArithOp.hasFlag_of_result hresult, heq⟩
      by_contra hx
      exact h ((register_setFlag_of_ne _ flag hz).trans (p.register_setRegister_of_ne value hx))

/-- What is drawn does not matter here, only where it is put. -/
theorem footprint_draw (p : Processor) (x y : Register) (rows : Nibble) (screen : Screen) (flag : Bool) :
    p.Footprint (.draw x y rows) { p.setFlag flag with screen } where
  registers _ h := eq_of_register_setFlag flag h
  screen _ := Or.inr ⟨x, y, rows, rfl⟩

theorem footprint_addIndex (p : Processor) (x : Register) (sum : UInt16) (flag : Bool) :
    p.Footprint (.addIndex x) { p.setFlag flag with index := sum } where
  registers _ h := eq_of_register_setFlag flag h
  index _ := Or.inr (Or.inl ⟨x, rfl⟩)

/-- A store changes bytes of its own range only. -/
theorem footprint_store {values : List UInt8}
    (hstores : (∃ x, i = .storeDecimal x) ∨ ∃ last, i = .storeRegs last)
    (hlength : values.length = span i) :
    p.Footprint i { p with memory := p.memory.writeAll p.index.toNat values } := by
  generalize hmemory : p.memory.writeAll p.index.toNat values = memory
  refine { memory := fun a h => ⟨hstores, touches_iff.mpr ?_⟩ }
  rw [← hlength]
  exact mem_range_of_writeAll (hmemory ▸ h)

theorem footprint_loadRegs (p : Processor) (last : Register) :
    p.Footprint (.loadRegs last) { p with registers := p.loadLanes last } := by
  refine { registers := fun z h => ?_ }
  by_contra hout
  apply h
  show (p.loadLanes last)[z.val] = p.register z
  rw [loadLanes, Vector.getElem_ofFn]
  exact if_neg hout

/-- What each instruction may change. -/
theorem footprint_apply (p : Processor) (i : Instruction) : p.Footprint i (p.apply i) := by
  cases i with
  | clearScreen => exact { screen := fun _ => Or.inl rfl }
  | draw x y rows => exact p.footprint_draw x y rows _ _
  | ret => exact { stack := fun _ => Or.inl rfl }
  | call target => exact { stack := fun _ => Or.inr ⟨target, rfl⟩ }
  | jump | jumpOffset => exact {}
  | awaitKey x =>
    simp only [apply]
    split_ifs <;> exact {}
  | skipEq | skipNe | skipEqReg | skipNeReg | skipKeyDown | skipKeyUp => exact p.footprint_skipIf _ _
  | set | add | getDelay => exact { registers := fun _ h => eq_of_register_setRegister h }
  | arith op x y => exact p.footprint_arith op x y
  | random x mask =>
    exact {
      registers := fun _ h => eq_of_register_setRegister h
      random := fun _ => ⟨x, mask, rfl⟩ }
  | setIndex target => exact { index := fun _ => Or.inl ⟨target, rfl⟩ }
  | pointGlyph x => exact { index := fun _ => Or.inr (Or.inr ⟨x, rfl⟩) }
  | addIndex x => exact p.footprint_addIndex x _ _
  | setDelay x => exact { delay := fun _ => ⟨x, rfl⟩ }
  | setSound x => exact { sound := fun _ => ⟨x, rfl⟩ }
  | storeDecimal x => exact footprint_store (Or.inl ⟨x, rfl⟩) rfl
  | storeRegs last =>
    have hfoot := footprint_store (p := p) (Or.inr ⟨last, rfl⟩) (p.length_firstRegisters last)
    rwa [← writeAll_storeLanes] at hfoot
  | loadRegs last => exact p.footprint_loadRegs last

/-! ## One step -/

/-- The place that an instruction leads to is one that it can lead to. -/
theorem leadsTo_of_nextPlace {next : Nat} (h : (next : Int) = p.nextPlace i) :
    i.LeadsTo p.counter.toNat next := by
  unfold nextPlace at h
  cases i with
  | ret | jumpOffset => exact trivial
  | jump target | call target => exact Int.ofNat.inj h
  | awaitKey | skipEq | skipNe | skipEqReg | skipNeReg | skipKeyDown | skipKeyUp =>
    show _ ∨ _
    dsimp only at h
    split_ifs at h <;> omega
  | _ =>
    simp only [skips, Bool.false_eq_true, if_false] at h
    show next = p.counter.toNat + 2
    omega

/-- **The footprint of a step.** A completed step changes beside the counter only what its instruction may
change, and it leads to a place that its instruction can lead to. -/
theorem footprint_of_step (h : p.step = .ok (q, i)) :
    p.Footprint i q ∧ i.LeadsTo p.counter.toNat q.counter.toNat := by
  obtain ⟨hat, -, rfl⟩ := step_eq_ok_iff.mp h
  refine ⟨?_, leadsTo_of_nextPlace (toNat_counter_apply hat)⟩
  -- the fetch moves the counter alone, of which the footprint does not speak
  exact { p.advance.footprint_apply i with }

/-- V0 and V1 are stored in the last two bytes of memory. The byte before them stays, though sixteen lanes
are written. -/
theorem footprint_of_step_at_end :
    ∃ p q : Processor, p.step = .ok (q, .storeRegs 1) ∧ q.memory[0xFFD]? = p.memory[0xFFD]? ∧
      q.registers = p.registers ∧ q.counter.toNat = p.counter.toNat + 2 := by
  let p : Processor := { fresh ⟨0, 0⟩ with
    index := 0xFFE, memory := (Memory.blank.write 0x200 0xF1).write 0x201 0x55 }
  have hat : p.At (.storeRegs 1) := at_of_write (by decide) rfl rfl (by decide)
  have hstep : p.step = .ok (p.advance.apply (.storeRegs 1), .storeRegs 1) :=
    step_eq_ok_iff.mpr ⟨hat, rfl, rfl⟩
  obtain ⟨hfoot, hnext⟩ := footprint_of_step hstep
  refine ⟨p, _, hstep, ?_, ?_, hnext⟩
  · by_contra hchanged
    obtain ⟨hlow, -⟩ := (hfoot.memory _ hchanged).2
    exact absurd hlow (by decide)
  · exact Vector.ext fun z hz => by_contra fun hchanged => hfoot.registers ⟨z, hz⟩ hchanged

end Processor

end Chip8
