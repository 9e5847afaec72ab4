import Chip8.Proofs.Processor.Footprint

/-!
# Registers in memory

Registers are stored in memory from I on and loaded from there, and I stays where it is. Both go over sixteen
lanes, of which those behind VX must leave no trace, and near the end of memory some of these lanes have no
byte at all. So what matters is said of each byte and each register.

* `Processor.Stores`, `Processor.Loads`: what a store and a load of V0 to VX come to.
* `execute_storeRegs`, `execute_loadRegs`: where memory has room they are carried out.
* `load_inverts_store`: each takes back what the other one did.
-/

namespace Chip8.Processor

variable {p q r s t : Processor} {last : Register}

/-- V0 to VX are stored from I on, and all else is as before. -/
structure Stores (p : Processor) (last : Register) (q : Processor) : Prop where
  frame : q = { p with memory := q.memory }
  stored : ∀ j ≤ last, q.memory[p.index.toNat + j.val]? = some (p.register j)
  others : ∀ a, a < p.index.toNat ∨ p.index.toNat + last < a → q.memory[a]? = p.memory[a]?

/-- V0 to VX are loaded from I on, and all else is as before. -/
structure Loads (p : Processor) (last : Register) (q : Processor) : Prop where
  frame : q = { p with registers := q.registers }
  loaded : ∀ j ≤ last, p.memory[p.index.toNat + j.val]? = some (q.register j)
  others : ∀ j, last < j → q.register j = p.register j

/-! ## Carrying them out -/

theorem check_storeRegs_eq_ok_iff (p : Processor) (last : Register) :
    p.check (.storeRegs last) = .ok () ↔ p.index.toNat + last ≤ 4095 := by
  refine checkRange_eq_ok_iff.trans ?_
  show last.val + 1 = 0 ∨ p.index.toNat + (last.val + 1) ≤ 4096 ↔ _
  omega

theorem check_loadRegs_eq_ok_iff (p : Processor) (last : Register) :
    p.check (.loadRegs last) = .ok () ↔ p.index.toNat + last ≤ 4095 :=
  p.check_storeRegs_eq_ok_iff last

theorem getElem?_firstRegisters (p : Processor) {j : Register} (hj : j ≤ last) :
    (p.firstRegisters last)[j.val]? = some (p.register j) := by
  have hlt : j.val < last.val + 1 := Nat.lt_succ_of_le hj
  rw [firstRegisters, List.getElem?_take_of_lt hlt, Vector.getElem?_toList, Vector.getElem?_eq_getElem j.isLt]
  rfl

theorem stores_apply (h : p.index.toNat + last ≤ 4095) : p.Stores last (p.apply (.storeRegs last)) where
  frame := rfl
  stored j hj := by
    have hle : j.val ≤ last.val := hj
    have hlength : j.val < (p.firstRegisters last).length := by
      rw [length_firstRegisters]
      omega
    show (p.memory.writeAll p.index.toNat (p.storeLanes last))[p.index.toNat + j.val]? = _
    rw [writeAll_storeLanes, Memory.getElem?_writeAll _ hlength (by omega), p.getElem?_firstRegisters hj]
  others a ha := by
    by_contra hchanged
    obtain ⟨-, hlow, hhigh⟩ := (p.footprint_apply (.storeRegs last)).memory a hchanged
    omega

theorem loads_apply (h : p.index.toNat + last ≤ 4095) : p.Loads last (p.apply (.loadRegs last)) where
  frame := rfl
  loaded j hj := by
    have hle : j.val ≤ last.val := hj
    have hloaded : (p.apply (.loadRegs last)).register j = p.memory.byteAt (p.index.toNat + j) :=
      (Vector.getElem_ofFn j.isLt).trans (if_pos hj)
    rw [hloaded, Memory.getElem?_of_lt _ (by omega)]
  others j hj := by
    by_contra hchanged
    have hwrites : j ≤ last := (p.footprint_apply (.loadRegs last)).registers j hchanged
    exact absurd hj (Fin.not_lt.mpr hwrites)

theorem execute_storeRegs (h : p.index.toNat + last ≤ 4095) :
    ∃ q, p.execute (.storeRegs last) = .ok q ∧ p.Stores last q :=
  ⟨_, execute_of_check ((p.check_storeRegs_eq_ok_iff last).mpr h), stores_apply h⟩

theorem execute_loadRegs (h : p.index.toNat + last ≤ 4095) :
    ∃ q, p.execute (.loadRegs last) = .ok q ∧ p.Loads last q :=
  ⟨_, execute_of_check ((p.check_loadRegs_eq_ok_iff last).mpr h), loads_apply h⟩

/-! ## One after the other -/

/-- A load gives back what was stored at the same place, whatever the registers hold by then. -/
theorem Stores.register_of_loads (hstores : p.Stores last q) (hmemory : s.memory = q.memory)
    (hindex : s.index = q.index) (hloads : s.Loads last t) {j : Register} (hj : j ≤ last) :
    t.register j = p.register j := by
  have hplace : s.index = p.index := by rw [hindex, hstores.frame]
  have hloaded := hloads.loaded j hj
  rw [hmemory, hplace, hstores.stored j hj] at hloaded
  exact (Option.some.inj hloaded).symm

/-- A store puts back what was loaded from the same place. -/
theorem Loads.eq_of_stores (hloads : p.Loads last r) (hstores : r.Stores last t) : t = r := by
  have hmemory : r.memory = p.memory := by rw [hloads.frame]
  have hindex : r.index = p.index := by rw [hloads.frame]
  have hsame : ∀ a : Nat, t.memory[a]? = r.memory[a]? := by
    intro a
    by_cases hin : r.index.toNat ≤ a ∧ a ≤ r.index.toNat + last
    · obtain ⟨d, rfl⟩ := Nat.exists_eq_add_of_le hin.1
      have hd : d ≤ last := by omega
      let j : Register := ⟨d, by omega⟩
      have hstored : t.memory[r.index.toNat + d]? = some (r.register j) := hstores.stored j hd
      have hloaded : p.memory[p.index.toNat + d]? = some (r.register j) := hloads.loaded j hd
      rw [hstored, hmemory, hindex, hloaded]
    · exact hstores.others a (by omega)
  rw [hstores.frame]
  exact congrArg (fun memory => { r with memory }) (Memory.ext_getElem? hsame)

/-- **Stores and loads of registers are inverse.** Both are carried out when the last byte is in memory, and else
refused. A store puts V0 to VX into the bytes from I on, and a load takes them from there; neither touches
another byte or register, or I. After a store, a load from the same memory and place gives V0 to VX back,
however the registers were changed. After a load, a store leaves everything as it is. -/
theorem load_inverts_store (p : Processor) (last : Register) :
    (p.check (.storeRegs last) = .ok () ↔ p.index.toNat + last ≤ 4095) ∧
    (p.check (.loadRegs last) = .ok () ↔ p.index.toNat + last ≤ 4095) ∧
    (p.index.toNat + last ≤ 4095 →
      (∃ q, p.execute (.storeRegs last) = .ok q ∧ p.Stores last q ∧
        ∀ s : Processor, s.memory = q.memory → s.index = q.index →
          ∃ t, s.execute (.loadRegs last) = .ok t ∧ s.Loads last t ∧
            ∀ j ≤ last, t.register j = p.register j) ∧
      ∃ r, p.execute (.loadRegs last) = .ok r ∧ p.Loads last r ∧
        r.execute (.storeRegs last) = .ok r) := by
  refine ⟨p.check_storeRegs_eq_ok_iff last, p.check_loadRegs_eq_ok_iff last, fun h => ⟨?_, ?_⟩⟩
  · obtain ⟨q, hstore, hstores⟩ := execute_storeRegs h
    refine ⟨q, hstore, hstores, fun s hmemory hindex => ?_⟩
    have hroom : s.index.toNat + last ≤ 4095 := by rwa [hindex, hstores.frame]
    obtain ⟨t, hload, hloads⟩ := execute_loadRegs hroom
    exact ⟨t, hload, hloads, fun j hj => hstores.register_of_loads hmemory hindex hloads hj⟩
  · obtain ⟨r, hload, hloads⟩ := execute_loadRegs h
    have hroom : r.index.toNat + last ≤ 4095 := by rwa [hloads.frame]
    obtain ⟨t, hstore, hstores⟩ := execute_storeRegs hroom
    rw [hloads.eq_of_stores hstores] at hstore
    exact ⟨r, hload, hloads, hstore⟩

/-- V0 and V1 go to the last two bytes of memory and come back after both were changed. -/
theorem load_inverts_store_at_end :
    ∃ p q t : Processor, p.index.toNat + 1 ≤ 4095 ∧ p.execute (.storeRegs 1) = .ok q ∧
      q.memory[0xFFE]? = some 7 ∧ q.memory[0xFFF]? = some 9 ∧ q.memory[0xFFD]? = p.memory[0xFFD]? ∧
      ((q.setRegister 0 1).setRegister 1 2).execute (.loadRegs 1) = .ok t ∧
      t.register 0 = 7 ∧ t.register 1 = 9 := by
  let p : Processor := { ((fresh ⟨0, 0⟩).setRegister 0 7).setRegister 1 9 with index := 0xFFE }
  have hroom : p.index.toNat + (1 : Register).val ≤ 4095 := by decide
  obtain ⟨-, -, h⟩ := load_inverts_store p 1
  obtain ⟨⟨q, hstore, hstores, hback⟩, -⟩ := h hroom
  obtain ⟨t, hload, -, hsame⟩ := hback ((q.setRegister 0 1).setRegister 1 2) rfl rfl
  exact ⟨p, q, t, hroom, hstore, hstores.stored 0 (by decide), hstores.stored 1 (by decide),
    hstores.others 0xFFD (Or.inl (by decide)), hload, hsame 0 (by decide), hsame 1 (by decide)⟩

end Chip8.Processor
