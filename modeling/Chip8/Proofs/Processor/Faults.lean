import Chip8.Proofs.Processor.Step

/-!
# When a step fails

Every fault of `Processor.step` has one cause, and a step without a cause for a fault is completed.

* `Processor.Faults`: the causes. The first three stages of a step exclude each other: no word can be
  fetched, the word is the word of no instruction, or an instruction is found.
* `step_outcome`: the faults of a step are those with a cause.
-/

namespace Chip8.Processor

open Instruction (decode_eq_error_iff)

variable {p : Processor}

/-- The causes of the faults of a step. -/
inductive Faults (p : Processor) : Fault → Prop where
  /-- The word at the counter is not in memory; the fault names the first of its bytes that is not. -/
  | beyond (h : 4095 ≤ p.counter.toNat) : Faults p (.outOfBounds (max p.counter.toNat 4096))
  /-- The word at the counter is the word of no instruction. -/
  | unknown {w : UInt16} (h : p.HasWord w) (hw : ∀ i : Instruction, i.encode ≠ w) :
    Faults p (.unknownOpcode w)
  /-- A call with sixteen calls open. -/
  | overflow {target : Address} (h : p.At (.call target)) (hfull : p.stack.depth = 16) :
    Faults p (.stackOverflow target)
  /-- A return with no call open. -/
  | underflow (h : p.At .ret) (hempty : p.stack.depth = 0) : Faults p .stackUnderflow
  /-- The instruction touches places beyond memory, of which the fault names the least. -/
  | range {i : Instruction} {a : Nat} (h : p.At i) (ha : IsLeast {b | p.Touches i b ∧ 4095 < b} a) :
    Faults p (.outOfBounds a)

theorem faults_of_step {f : Fault} (hdepth : p.stack.depth ≤ 16) (h : p.step = .error f) :
    p.Faults f := by
  rcases p.step_cases with hbeyond | ⟨w, hword, hw⟩ | ⟨i, hi⟩
  · rw [step_beyond hbeyond] at h
    cases h
    exact .beyond hbeyond
  · rw [step_unknown hword hw] at h
    cases h
    exact .unknown hword hw
  · rw [step_at_eq_error_iff hi, check_eq_error_iff hdepth] at h
    rcases h with ⟨target, rfl, hfull, rfl⟩ | ⟨rfl, hempty, rfl⟩ | ⟨a, ha, rfl⟩
    · exact .overflow hi hfull
    · exact .underflow hi hempty
    · exact .range hi ha

theorem step_of_faults {f : Fault} (hdepth : p.stack.depth ≤ 16) (h : p.Faults f) :
    p.step = .error f := by
  cases h with
  | beyond h => exact step_beyond h
  | unknown h hw => exact step_unknown h hw
  | overflow h hfull =>
    rw [step_at_eq_error_iff h, check_eq_error_iff hdepth]
    exact Or.inl ⟨_, rfl, hfull, rfl⟩
  | underflow h hempty =>
    rw [step_at_eq_error_iff h, check_eq_error_iff hdepth]
    exact Or.inr (Or.inl ⟨rfl, hempty, rfl⟩)
  | range h ha =>
    rw [step_at_eq_error_iff h, check_eq_error_iff hdepth]
    exact Or.inr (Or.inr ⟨_, ha, rfl⟩)

/-- **The outcome of a step.** With at most sixteen calls open, a step fails with exactly the faults that
have a cause, and is completed when there is none. The word that it fetches is never refused for its
size. -/
theorem step_outcome (p : Processor) (hdepth : p.stack.depth ≤ 16) :
    (∀ f, p.step = .error f ↔ p.Faults f) ∧
    ((∃ q i, p.step = .ok (q, i)) ↔ ∀ f, ¬ p.Faults f) ∧
    ∀ w, p.HasWord w → ∀ e, Instruction.decode w.toNat = .error e → e = .unknownOpcode w := by
  have hfaults : ∀ f, p.step = .error f ↔ p.Faults f :=
    fun f => ⟨faults_of_step hdepth, step_of_faults hdepth⟩
  refine ⟨hfaults, ?_, fun w _ e he => (decode_eq_error_iff.mp he).1⟩
  simp only [← hfaults]
  cases p.step with
  | error f => simp
  | ok made =>
    obtain ⟨q, i⟩ := made
    simp

/-- A sprite of three rows at the second to last byte: the third row is the first one outside. -/
theorem step_outcome_of_sprite_over_end :
    let p : Processor := { fresh ⟨0, 0⟩ with
      index := 0xFFE, memory := (Memory.blank.write 0x200 0xD0).write 0x201 0x03 }
    p.stack.depth ≤ 16 ∧ p.step = .error (.outOfBounds 4096) := by
  intro p
  have hdepth : p.stack.depth ≤ 16 := by decide
  have hat : p.At (.draw 0 0 3) := by
    refine ⟨0xD0, 0x03, ?_, ?_, by decide⟩
    · show ((Memory.blank.write 0x200 0xD0).write 0x201 0x03)[0x200]? = some 0xD0
      simp [Memory.write]
    · show ((Memory.blank.write 0x200 0xD0).write 0x201 0x03)[0x201]? = some 0x03
      simp [Memory.write]
  have hleast : IsLeast {b | p.Touches (.draw 0 0 3) b ∧ 4095 < b} 4096 := by
    refine ⟨⟨⟨by decide, by decide⟩, by decide⟩, ?_⟩
    rintro b ⟨-, hb⟩
    exact hb
  exact ⟨hdepth, ((step_outcome p hdepth).1 _).mpr (.range hat hleast)⟩

end Chip8.Processor
