import Chip8.Proofs.Processor.Footprint
import Chip8.Proofs.Processor.Run

/-!
# Sums in I

The register I has sixteen bits, four more than an address, so that a sum can lead out of memory. VF tells that it
does, and the next access by way of I fails. This is so as long as the sum fits in sixteen bits: a larger
one comes back to the start of memory, where nothing tells it from a small one.

* `additions`: the number of additions to I since it was last pointed to an address or a glyph.
* `Processor.SumsTo`: I holds a sum, and all is as it should be with this sum.
* `toNat_index_le`: how large I can get over a run.
* `sumsTo_of_run`: the additions to I in a run, and which of them are exact. The first 240 in a row always are.
-/

namespace Chip8

/-- The number of additions to I in a row, after one more completed step. -/
def noteAddition (count : Nat) (step : Executed) : Nat :=
  match step.instruction with
  | .addIndex _ => count + 1
  | .setIndex _ | .pointGlyph _ => 0
  | _ => count

/-- The number of additions to I since it was last pointed to an address or a glyph. -/
def additions (steps : List Executed) : Nat := steps.foldl noteAddition 0

theorem additions_concat (steps : List Executed) (step : Executed) :
    additions (steps ++ [step]) = noteAddition (additions steps) step := by
  simp [additions]

namespace Processor

variable {p q r : Processor} {i : Instruction} {x : Register} {sum : Nat}

/-- I holds a sum. VF tells whether it is beyond the last address, and if it is then every access by way of I
fails. -/
structure SumsTo (p : Processor) (sum : Nat) : Prop where
  index : p.index.toNat = sum
  flag : p.register .flag = if 0xFFF < sum then 1 else 0
  access : 0xFFF < sum → ∀ i a, p.Touches i a →
    p.execute i = .error (.outOfBounds sum) ∧ (p.At i → p.step = .error (.outOfBounds sum))

/-! ## One addition -/

/-- An access fails when I is beyond the last address, and the fault names I. -/
theorem check_of_beyond {a : Nat} (h : 0xFFF < p.index.toNat) (ha : p.Touches i a) :
    p.check i = .error (.outOfBounds p.index.toNat) := by
  have hrange := touches_iff.mp ha
  have hcall : ∀ target, i ≠ .call target := by
    rintro target rfl
    exact ha
  have hret : i ≠ .ret := by
    rintro rfl
    exact ha
  rw [check_range p hcall hret, checkRange_eq_error_iff]
  refine ⟨p.index.toNat, ⟨⟨⟨Nat.le_refl _, by omega⟩, h⟩, ?_⟩, rfl⟩
  rintro b ⟨⟨hb, -⟩, -⟩
  exact hb

theorem sumsTo_of_index (hindex : p.index.toNat = sum)
    (hflag : p.register .flag = if 0xFFF < sum then 1 else 0) : p.SumsTo sum where
  index := hindex
  flag := hflag
  access h i a ha := by
    subst hindex
    have hcheck := check_of_beyond h ha
    constructor
    · rw [execute, hcheck]
      rfl
    · intro hat
      rw [step_at hat, hcheck]
      rfl

/-- An addition to I gives the low sixteen bits of the sum. -/
theorem sumsTo_addIndex (p : Processor) (x : Register) :
    (p.apply (.addIndex x)).SumsTo ((p.index.toNat + (p.register x).toNat) % 65536) := by
  have hsum : (p.index + (p.register x).toUInt16).toNat =
      (p.index.toNat + (p.register x).toNat) % 65536 := by
    rw [UInt16.toNat_add, UInt8.toNat_toUInt16]
  refine sumsTo_of_index hsum ?_
  show (p.setFlag (decide (0x0FFF < p.index + (p.register x).toUInt16))).register .flag = _
  rw [register_setFlag_self, ← hsum]
  simp only [decide_eq_true_eq, UInt16.lt_iff_toNat_lt]
  rfl

theorem SumsTo.unique {sum' : Nat} (h : p.SumsTo sum) (h' : p.SumsTo sum') : sum = sum' :=
  h.index.symm.trans h'.index

theorem execute_addIndex (p : Processor) (x : Register) :
    p.execute (.addIndex x) = .ok (p.apply (.addIndex x)) := rfl

/-- Both ways to carry out an addition come to the same sum. -/
theorem sumsTo_of_addition
    (h : p.execute (.addIndex x) = .ok q ∨ p.step = .ok (q, .addIndex x)) :
    q.SumsTo ((p.index.toNat + (p.register x).toNat) % 65536) := by
  rcases h with h | h
  · rw [execute_addIndex] at h
    cases h
    exact p.sumsTo_addIndex x
  · obtain ⟨-, -, rfl⟩ := step_eq_ok_iff.mp h
    exact p.advance.sumsTo_addIndex x

/-! ## Runs -/

/-- The bound on I is kept by a completed step. -/
theorem toNat_index_le_of_step {count : Nat} (h : q.index.toNat ≤ 0xFFF + 255 * count)
    (hstep : q.step = .ok (r, i)) :
    r.index.toNat ≤ 0xFFF + 255 * noteAddition count ⟨q.counter, i⟩ := by
  obtain ⟨hfoot, -⟩ := footprint_of_step hstep
  obtain ⟨-, -, hr⟩ := step_eq_ok_iff.mp hstep
  cases i with
  | setIndex target =>
    have hindex : r.index.toNat = target := by
      rw [hr]
      exact toNat_address target
    have htarget := target.isLt
    omega
  | pointGlyph x =>
    have hindex : r.index.toNat = 0x050 + (q.register x).toNat % 16 * 5 := by
      rw [hr]
      exact UInt16.toNat_ofNat_of_lt' (by unfold Memory.glyphStart Memory.glyphSize UInt16.size; omega)
    omega
  | addIndex x =>
    have hsum := (sumsTo_of_addition (Or.inr hstep)).index
    have haddend := (q.register x).toNat_lt
    have hcount : noteAddition count ⟨q.counter, .addIndex x⟩ = count + 1 := rfl
    rw [hcount]
    omega
  | _ =>
    have hsame : r.index = q.index := by
      by_contra hchanged
      simpa using hfoot.index hchanged
    rw [hsame]
    exact h

/-- How large I can be after a run. -/
theorem toNat_index_le (h : p.index.toNat ≤ 0xFFF) (actions : List Action) :
    (p.run actions).index.toNat ≤ 0xFFF + 255 * additions (p.trace actions) := by
  refine run_invariant (fun q steps => q.index.toNat ≤ 0xFFF + 255 * additions steps) ?_ ?_ ?_ actions
  · exact h
  · intro q r i steps hq hstep
    rw [additions_concat]
    exact toNat_index_le_of_step hq hstep
  · intro q steps delay sound keypad hq
    exact hq

/-! ## A program that adds for ever -/

/-- Set V0 to 255, point I at the last address, and add V0 to I again and again. -/
def addingRom : Rom := [0x60, 0xFF, 0xAF, 0xFF, 0xF0, 0x1E, 0x12, 0x04]

/-- The program is about to make the addition after `count` others. -/
structure Adding (count : Nat) (q : Processor) : Prop where
  counter : q.counter = 0x204
  sum : q.memory.wordAt 0x204 = (Instruction.addIndex 0).encode
  back : q.memory.wordAt 0x206 = (Instruction.jump 0x204).encode
  addend : q.register 0 = 255
  index : q.index.toNat = 0xFFF + 255 * count

/-- One round of the program: the addition, and the jump back to it. -/
theorem Adding.round {count : Nat} (h : Adding count q) (hcount : count < 240) :
    Adding (count + 1) (q.run [.step, .step]) := by
  let added : Processor := q.advance.apply (.addIndex 0)
  have hat : q.At (.addIndex 0) := by
    rw [At, hasWord_iff, h.counter]
    exact ⟨by decide, h.sum.symm⟩
  have hsum : q.step = .ok (added, .addIndex 0) := step_eq_ok_iff.mpr ⟨hat, rfl, rfl⟩
  have hcounter : added.counter = 0x206 := by
    show q.counter + 2 = 0x206
    rw [h.counter]
    rfl
  have hback : added.At (.jump 0x204) := by
    rw [At, hasWord_iff, hcounter]
    exact ⟨by decide, h.back.symm⟩
  have hjump : added.step = .ok (added.advance.apply (.jump 0x204), .jump 0x204) :=
    step_eq_ok_iff.mpr ⟨hback, rfl, rfl⟩
  have hindex : added.index.toNat = 0xFFF + 255 * (count + 1) := by
    have hlow := (sumsTo_of_addition (Or.inr hsum)).index
    rw [h.index, h.addend] at hlow
    have haddend : (255 : UInt8).toNat = 255 := rfl
    omega
  have haddend : added.register 0 = 255 :=
    (register_setFlag_of_ne _ _ (by decide)).trans h.addend
  rw [run_step hsum, run_step hjump]
  exact ⟨rfl, h.sum, h.back, haddend, hindex⟩

theorem exists_adding (count : Nat) (hcount : count ≤ 240) :
    ∃ p actions, boot? ⟨0, 0⟩ addingRom = some p ∧ Adding count (p.run actions) := by
  induction count with
  | zero =>
    have hrun : (boot? ⟨0, 0⟩ addingRom).map (fun p =>
        let q := p.run [.step, .step]
        (q.counter, q.memory.wordAt 0x204, q.memory.wordAt 0x206, q.register 0, q.index.toNat)) =
        some (0x204, (Instruction.addIndex 0).encode, (Instruction.jump 0x204).encode, 255, 0xFFF) := by
      decide +kernel
    obtain ⟨p, hp, hq⟩ := Option.map_eq_some_iff.mp hrun
    simp only [Prod.mk.injEq] at hq
    obtain ⟨hcounter, hsum, hback, haddend, hindex⟩ := hq
    exact ⟨p, _, hp, hcounter, hsum, hback, haddend, hindex⟩
  | succ count ih =>
    obtain ⟨p, actions, hp, hq⟩ := ih (by omega)
    refine ⟨p, actions ++ [.step, .step], hp, ?_⟩
    rw [run_append]
    exact hq.round (by omega)

/-! ## The additions of a run -/

/-- **Additions to I.** An addition in any state of a run is completed, and gives the low sixteen bits of the sum of
I and VX. So it is exact if and only if the sum fits in sixteen bits, and this is always so for the first 240
additions since I was last pointed to an address or a glyph. When an exact sum is beyond the last
address, VF tells it and every access that follows fails. -/
theorem sumsTo_of_run {random : RandomKey} {rom : Rom} (hboot : boot? random rom = some p)
    (actions : List Action) (x : Register) :
    let q := p.run actions
    let sum := q.index.toNat + (q.register x).toNat
    (∃ r, q.execute (.addIndex x) = .ok r) ∧ (q.At (.addIndex x) → ∃ r, q.step = .ok (r, .addIndex x)) ∧
    ∀ r, q.execute (.addIndex x) = .ok r ∨ q.step = .ok (r, .addIndex x) →
      r.SumsTo (sum % 65536) ∧ (r.SumsTo sum ↔ sum < 65536) ∧
      (additions (p.trace actions) < 240 → r.SumsTo sum) := by
  intro q sum
  refine ⟨⟨_, q.execute_addIndex x⟩, fun hat => ⟨_, step_eq_ok_iff.mpr ⟨hat, rfl, rfl⟩⟩, fun r hr => ?_⟩
  have hlow : r.SumsTo (sum % 65536) := sumsTo_of_addition hr
  have hexact : r.SumsTo sum ↔ sum < 65536 := by
    constructor
    · intro h
      have heq := h.unique hlow
      omega
    · intro hlt
      rwa [Nat.mod_eq_of_lt hlt] at hlow
  refine ⟨hlow, hexact, fun hfew => hexact.mpr ?_⟩
  obtain ⟨memory, hp⟩ := boot?_eq_some hboot
  have hstart : p.index.toNat ≤ 0xFFF := by
    rw [hp]
    exact Nat.zero_le _
  have hindex : q.index.toNat ≤ 0xFFF + 255 * additions (p.trace actions) := toNat_index_le hstart actions
  have haddend := (q.register x).toNat_lt
  omega

/-- After 240 additions the next one comes back to the start of memory, and VF does not tell. -/
theorem sumsTo_of_run_of_adding :
    ∃ (p r : Processor) (actions : List Action), boot? ⟨0, 0⟩ addingRom = some p ∧
      (p.run actions).index.toNat = 65295 ∧ (p.run actions).execute (.addIndex 0) = .ok r ∧
      r.SumsTo 14 := by
  obtain ⟨p, actions, hp, hq⟩ := exists_adding 240 (by decide)
  obtain ⟨⟨r, hr⟩, -, hsums⟩ := sumsTo_of_run hp actions 0
  obtain ⟨hlow, -, -⟩ := hsums r (Or.inl hr)
  rw [hq.index, hq.addend] at hlow
  exact ⟨p, r, actions, hp, hq.index, hr, hlow⟩

/-- It is not so that additions to I are exact in every state of a run. -/
theorem not_sumsTo_of_run :
    ¬ ∀ (random : RandomKey) (rom : Rom) (p r : Processor) (actions : List Action) (x : Register),
      boot? random rom = some p → (p.run actions).execute (.addIndex x) = .ok r →
      r.SumsTo ((p.run actions).index.toNat + ((p.run actions).register x).toNat) := by
  intro hclaim
  obtain ⟨p, actions, hp, hq⟩ := exists_adding 240 (by decide)
  have hsum := (hclaim _ _ p _ actions 0 hp (execute_addIndex _ 0)).index
  rw [hq.index, hq.addend] at hsum
  have hlt := ((p.run actions).apply (.addIndex 0)).index.toNat_lt
  have haddend : (255 : UInt8).toNat = 255 := rfl
  omega

end Processor

end Chip8
