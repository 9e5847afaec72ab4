import Chip8.Proofs.Processor.Footprint

/-!
# Arithmetic on registers

A byte cannot hold every sum, difference and shifted byte. The flag in VF makes up for what the result lacks, so
that both together tell the exact outcome. This is so for all registers, also if one of them is VF: the
operands are read before anything is written, and the flag is written after the result.

* `ArithOp.Balances`: the equation between the operands, the result and the flag.
* `ArithOp.bit?`: the operations that go bit by bit and have no flag.
* `Processor.Rewritten`: two processors that differ in some registers only.
* `arith_exact`: what each operation comes to.
-/

namespace Chip8

/-! ## Bytes as numbers -/

section Bytes

variable (a b : UInt8)

theorem toNat_decide (c : Prop) [Decidable c] : (decide c).toNat = if c then 1 else 0 := by
  by_cases h : c <;> simp [h]

theorem toNat_sum :
    (a.toNat + b.toNat : Int) = 256 * (decide (255 < a.toNat + b.toNat)).toNat + (a + b).toNat := by
  have ha := a.toNat_lt
  have hb := b.toNat_lt
  rw [UInt8.toNat_add, toNat_decide]
  split_ifs <;> omega

theorem toNat_difference :
    (a.toNat - b.toNat : Int) = (a - b).toNat - 256 * (1 - (decide (b ≤ a)).toNat) := by
  have ha := a.toNat_lt
  have hb := b.toNat_lt
  rw [UInt8.toNat_sub, toNat_decide]
  split_ifs with h <;> rw [UInt8.le_iff_toNat_le] at h <;> omega

theorem toNat_half : (b.toNat : Int) = 2 * (b >>> 1).toNat + (b.toNat.testBit 0).toNat := by
  have hhalf : (b >>> 1).toNat = b.toNat / 2 := by
    rw [UInt8.toNat_shiftRight]
    exact Nat.shiftRight_eq_div_pow _ 1
  rw [hhalf, Nat.toNat_testBit]
  omega

theorem toNat_double : (2 * b.toNat : Int) = 256 * (b.toNat.testBit 7).toNat + (b <<< 1).toNat := by
  have hb := b.toNat_lt
  have hdouble : (b <<< 1).toNat = b.toNat * 2 % 256 := by
    rw [UInt8.toNat_shiftLeft]
    exact congrArg (· % 256) (Nat.shiftLeft_eq _ 1)
  rw [hdouble, Nat.toNat_testBit]
  omega

end Bytes

/-! ## Results and flags -/

namespace ArithOp

variable {op : ArithOp}

/-- Operands, result and flag as numbers: the flag tells what the result lacks. An operation without a flag has no
such equation. -/
def Balances (op : ArithOp) (a b result flag : Int) : Prop :=
  match op with
  | .add => a + b = 256 * flag + result
  | .sub => a - b = result - 256 * (1 - flag)
  | .subFrom => b - a = result - 256 * (1 - flag)
  | .shiftRight => b = 2 * result + flag
  | .shiftLeft => 2 * b = 256 * flag + result
  | .copy | .or | .and | .xor => False

/-- What an operation without a flag makes of one bit of each operand. -/
def bit? : ArithOp → Option (Bool → Bool → Bool)
  | .copy => some fun _ b => b
  | .or => some Bool.or
  | .and => some Bool.and
  | .xor => some Bool.xor
  | .add | .sub | .shiftRight | .subFrom | .shiftLeft => none

theorem exists_balanced (h : op.hasFlag = true) (a b : UInt8) :
    ∃ result flag, op.result a b = (result, some flag) ∧
      op.Balances a.toNat b.toNat result.toNat flag.toNat := by
  cases op with
  | copy | or | and | xor => cases h
  | add => exact ⟨_, _, rfl, toNat_sum a b⟩
  | sub => exact ⟨_, _, rfl, toNat_difference a b⟩
  | shiftRight => exact ⟨_, _, rfl, toNat_half b⟩
  | subFrom => exact ⟨_, _, rfl, toNat_difference b a⟩
  | shiftLeft => exact ⟨_, _, rfl, toNat_double b⟩

theorem exists_bitwise {bit : Bool → Bool → Bool} (h : op.bit? = some bit) (a b : UInt8) :
    ∃ result, op.result a b = (result, none) ∧
      ∀ k, result.toNat.testBit k = bit (a.toNat.testBit k) (b.toNat.testBit k) := by
  cases op with
  | add | sub | shiftRight | subFrom | shiftLeft => cases h
  | copy =>
    cases h
    exact ⟨b, rfl, fun _ => rfl⟩
  | or =>
    cases h
    exact ⟨a ||| b, rfl, fun k => by rw [UInt8.toNat_or, Nat.testBit_or]⟩
  | and =>
    cases h
    exact ⟨a &&& b, rfl, fun k => by rw [UInt8.toNat_and, Nat.testBit_and]⟩
  | xor =>
    cases h
    exact ⟨a ^^^ b, rfl, fun k => by rw [UInt8.toNat_xor, Nat.testBit_xor]⟩

end ArithOp

namespace Processor

variable {p : Processor} {op : ArithOp} {x y : Register} {result : UInt8} {flag : Bool}

/-! ## Into the registers -/

/-- Some registers are all that may be new. -/
structure Rewritten (p : Processor) (changed : List Register) (q : Processor) : Prop where
  frame : q = { p with registers := q.registers }
  others : ∀ z, z ∉ changed → q.register z = p.register z

theorem rewritten_setRegister (p : Processor) (x : Register) (value : UInt8) :
    p.Rewritten [x] (p.setRegister x value) where
  frame := rfl
  others _ hz := p.register_setRegister_of_ne value (mt List.mem_singleton.mpr hz)

theorem rewritten_setFlag (p : Processor) (x : Register) (value : UInt8) (flag : Bool) :
    p.Rewritten [x, .flag] ((p.setRegister x value).setFlag flag) where
  frame := rfl
  others z hz := by
    rw [List.mem_cons, List.mem_singleton, not_or] at hz
    rw [register_setFlag_of_ne _ _ hz.2, register_setRegister_of_ne _ _ hz.1]

theorem execute_arith_of_flag (h : op.result (p.register x) (p.register y) = (result, some flag)) :
    p.execute (.arith op x y) = .ok ((p.setRegister x result).setFlag flag) := by
  show Except.ok (p.apply (.arith op x y)) = _
  simp only [apply, h]

theorem execute_arith_of_none (h : op.result (p.register x) (p.register y) = (result, none)) :
    p.execute (.arith op x y) = .ok (p.setRegister x result) := by
  show Except.ok (p.apply (.arith op x y)) = _
  simp only [apply, h]

/-- **Arithmetic is exact.** Two bytes give each flagged operation a result and a flag that balance, and whatever
registers they come from, the flag is in VF afterwards, and the result is in VX unless this is VF. The
operations without a flag put their result into VX, VF included, and so does the addition of a constant, which
drops what a byte cannot hold. Nothing else is changed by any of them. -/
theorem arith_exact (a b : UInt8) :
    (∀ op : ArithOp, op.hasFlag = true → ∃ (result : UInt8) (flag : Bool),
      op.Balances a.toNat b.toNat result.toNat flag.toNat ∧
      ∀ (p : Processor) (x y : Register), p.register x = a → p.register y = b →
        ∃ q, p.execute (.arith op x y) = .ok q ∧ p.Rewritten [x, .flag] q ∧
          (q.register .flag).toNat = flag.toNat ∧ (x ≠ .flag → q.register x = result)) ∧
    (∀ (op : ArithOp) (bit : Bool → Bool → Bool), op.bit? = some bit → ∃ result : UInt8,
      (∀ k, result.toNat.testBit k = bit (a.toNat.testBit k) (b.toNat.testBit k)) ∧
      ∀ (p : Processor) (x y : Register), p.register x = a → p.register y = b →
        ∃ q, p.execute (.arith op x y) = .ok q ∧ p.Rewritten [x] q ∧ q.register x = result) ∧
    ∀ (p : Processor) (x : Register), p.register x = a →
      ∃ q, p.execute (.add x b) = .ok q ∧ p.Rewritten [x] q ∧
        (q.register x).toNat = (a.toNat + b.toNat) % 256 := by
  refine ⟨fun op hop => ?_, fun op bit hbit => ?_, fun p x ha => ?_⟩
  · obtain ⟨result, flag, hresult, hbalances⟩ := ArithOp.exists_balanced hop a b
    refine ⟨result, flag, hbalances, fun p x y ha hb => ?_⟩
    rw [← ha, ← hb] at hresult
    refine ⟨_, execute_arith_of_flag hresult, p.rewritten_setFlag x result flag, ?_, fun hx => ?_⟩
    · -- the flag is written last, so that it stays also if the result went to VF
      rw [register_setFlag_self]
      cases flag <;> rfl
    · rw [register_setFlag_of_ne _ _ hx, register_setRegister_self]
  · obtain ⟨result, hresult, hbits⟩ := ArithOp.exists_bitwise hbit a b
    refine ⟨result, hbits, fun p x y ha hb => ?_⟩
    rw [← ha, ← hb] at hresult
    exact ⟨_, execute_arith_of_none hresult, p.rewritten_setRegister x result,
      p.register_setRegister_self result⟩
  · refine ⟨_, rfl, p.rewritten_setRegister x (p.register x + b), ?_⟩
    rw [← ha, ← UInt8.toNat_add]
    exact congrArg UInt8.toNat (p.register_setRegister_self _)

/-- VF is added to itself: the carry stays in it, and the sum is lost. -/
theorem arith_exact_of_flag :
    ∃ p q : Processor, ArithOp.add.hasFlag = true ∧ p.register .flag = 200 ∧
      p.execute (.arith .add .flag .flag) = .ok q ∧ (q.register .flag).toNat = 1 ∧
      q.registers[3] = p.registers[3] := by
  let p : Processor := (fresh ⟨0, 0⟩).setRegister .flag 200
  have hflag : p.register .flag = 200 := (fresh ⟨0, 0⟩).register_setRegister_self 200
  have hop : ArithOp.add.hasFlag = true := rfl
  obtain ⟨result, flag, hbalances, hall⟩ := (arith_exact 200 200).1 .add hop
  obtain ⟨q, hexecute, hrewritten, hq, -⟩ := hall p .flag .flag hflag hflag
  refine ⟨p, q, hop, hflag, hexecute, ?_, hrewritten.others 3 (by decide)⟩
  have hresult := result.toNat_lt
  have hsum : (200 + 200 : Int) = 256 * flag.toNat + result.toNat := hbalances
  omega

end Processor

end Chip8
