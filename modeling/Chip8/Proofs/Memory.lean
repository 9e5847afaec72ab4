import Chip8.Memory
import Mathlib.Data.List.GetD
import Mathlib.Order.Bounds.Defs
import Mathlib.Tactic.SplitIfs

/-!
# Accesses to memory

The total accesses of `Memory` place by place, and beside them accesses that fail outside memory. On a
range inside memory both agree.

* `Memory.Within`: a range that memory has; `firstOutside?_eq_none_iff` and `firstOutside?_eq_some_iff`
  say what `firstOutside?` finds.
* `getElem_writeAll`: the bytes after a number of writes.
* `Memory.readAll?`, `Memory.writeAll?`: the accesses that fail, and on which ranges they do.
-/

namespace Chip8.Memory

/-! ## Ranges -/

/-- Memory has all of the `count` places from `start` on. -/
def Within (start count : Nat) : Prop := count = 0 ∨ start + count ≤ 4096

theorem not_within_iff {start count : Nat} : ¬ Within start count ↔ 0 < count ∧ 4096 < start + count := by
  unfold Within
  omega

theorem firstOutside?_eq_none_iff {start count : Nat} :
    firstOutside? start count = none ↔ Within start count := by
  unfold firstOutside? Within size
  split_ifs with h
  · simp only [false_iff]
    omega
  · simp only [true_iff]
    omega

/-- What is found is the least place of the range that memory does not have. -/
theorem firstOutside?_eq_some_iff {start count a : Nat} :
    firstOutside? start count = some a ↔
      IsLeast {b | (start ≤ b ∧ b < start + count) ∧ 4095 < b} a := by
  unfold firstOutside? size
  constructor
  · intro h
    split_ifs at h with hout
    cases h
    refine ⟨⟨⟨by omega, by omega⟩, by omega⟩, ?_⟩
    rintro b ⟨⟨hb, -⟩, hb'⟩
    exact Nat.max_le.mpr ⟨hb, hb'⟩
  · rintro ⟨⟨⟨hlo, hhi⟩, hout⟩, hmin⟩
    have hmax : a ≤ max start 4096 := hmin ⟨⟨by omega, by omega⟩, by omega⟩
    rw [if_pos (by omega)]
    congr 1
    omega

/-! ## Reads and writes -/

theorem byteAt_of_lt (m : Memory) {a : Nat} (h : a < 4096) : m.byteAt a = m[a] := by
  simp only [byteAt, Nat.min_eq_left (Nat.le_of_lt_succ h)]

theorem getElem?_of_lt (m : Memory) {a : Nat} (h : a < 4096) : m[a]? = some (m.byteAt a) := by
  rw [byteAt_of_lt m h, Vector.getElem?_eq_getElem h]

theorem getElem_write (m : Memory) (a : Nat) (value : UInt8) {k : Nat} (hk : k < 4096) :
    (m.write a value)[k] = if a = k then value else m[k] :=
  Vector.getElem_setIfInBounds hk

/-- The bytes after writes from a place on: the new ones there, and else the old ones. -/
theorem getElem_writeAll (m : Memory) (a : Nat) (values : List UInt8) {k : Nat} (hk : k < 4096) :
    (m.writeAll a values)[k] = if k < a then m[k] else values.getD (k - a) m[k] := by
  induction values generalizing m a with
  | nil => simp [writeAll]
  | cons value rest ih =>
    rw [writeAll, ih, getElem_write]
    rcases Nat.lt_trichotomy k a with hlt | rfl | hgt
    · rw [if_pos (by omega), if_neg (by omega), if_pos hlt]
    · simp
    · obtain ⟨d, rfl⟩ : ∃ d, k = a + 1 + d := ⟨k - (a + 1), by omega⟩
      rw [if_neg (by omega), if_neg (by omega), if_neg (by omega)]
      rw [show a + 1 + d - (a + 1) = d by omega, show a + 1 + d - a = d + 1 by omega]
      exact List.getD_cons_succ.symm

/-- The bytes that were written are there. -/
theorem getElem?_writeAll (m : Memory) {a d : Nat} {values : List UInt8} (hd : d < values.length)
    (h : a + d < 4096) : (m.writeAll a values)[a + d]? = values[d]? := by
  rw [Vector.getElem?_eq_getElem h, getElem_writeAll _ _ _ h, if_neg (by omega), Nat.add_sub_cancel_left,
    List.getD_eq_getElem _ _ hd, List.getElem?_eq_getElem hd]

/-- Memory is what its bytes are. -/
theorem ext_getElem? {m n : Memory} (h : ∀ a : Nat, m[a]? = n[a]?) : m = n := by
  refine Vector.ext fun a ha => ?_
  have hbyte := h a
  rwa [Vector.getElem?_eq_getElem ha, Vector.getElem?_eq_getElem ha, Option.some_inj] at hbyte

/-- The bytes of a number of places from `a` on. -/
def bytesFrom (m : Memory) (a count : Nat) : List UInt8 :=
  (List.range count).map fun j => m.byteAt (a + j)

theorem getElem?_bytesFrom (m : Memory) (a count d : Nat) :
    (m.bytesFrom a count)[d]? = if d < count then some (m.byteAt (a + d)) else none := by
  rw [bytesFrom, List.getElem?_map]
  split_ifs with h
  · rw [List.getElem?_range h]
    rfl
  · rw [List.getElem?_eq_none (by simpa using h)]
    rfl

theorem bytesFrom_succ (m : Memory) (a count : Nat) :
    m.bytesFrom a (count + 1) = m.byteAt a :: m.bytesFrom (a + 1) count := by
  simp [bytesFrom, List.range_succ_eq_map, Nat.add_comm, Nat.add_left_comm]

/-! ## Accesses that fail outside memory -/

/-- The byte at a place, if memory has it. -/
def read? (m : Memory) (a : Nat) : Option UInt8 := m[a]?

/-- The bytes of a number of places from `a` on, if memory has them all. -/
def readAll? (m : Memory) (a : Nat) : Nat → Option (List UInt8)
  | 0 => some []
  | count + 1 => do return (← m.read? a) :: (← m.readAll? (a + 1) count)

/-- Memory with a byte replaced, if it has the place. -/
def write? (m : Memory) (a : Nat) (value : UInt8) : Option Memory :=
  if h : a < 4096 then some (m.set a value h) else none

/-- Memory with bytes written from a place on, if it has all their places. -/
def writeAll? (m : Memory) (a : Nat) : List UInt8 → Option Memory
  | [] => some m
  | value :: rest => do (← m.write? a value).writeAll? (a + 1) rest

theorem read?_of_lt (m : Memory) {a : Nat} (h : a < 4096) : m.read? a = some (m.byteAt a) :=
  getElem?_of_lt m h

theorem read?_of_le (m : Memory) {a : Nat} (h : 4096 ≤ a) : m.read? a = none :=
  Vector.getElem?_eq_none h

theorem write?_of_lt (m : Memory) {a : Nat} (value : UInt8) (h : a < 4096) :
    m.write? a value = some (m.write a value) := by
  rw [write?, dif_pos h, write]
  congr 1
  exact Vector.ext fun k hk => by rw [Vector.getElem_set, Vector.getElem_setIfInBounds]

theorem write?_of_le (m : Memory) {a : Nat} (value : UInt8) (h : 4096 ≤ a) : m.write? a value = none :=
  dif_neg (Nat.not_lt.mpr h)

theorem readAll?_of_within (m : Memory) {a count : Nat} (h : Within a count) :
    m.readAll? a count = some (m.bytesFrom a count) := by
  induction count generalizing a with
  | zero => rfl
  | succ count ih =>
    have hend : a + (count + 1) ≤ 4096 := h.resolve_left (Nat.succ_ne_zero count)
    have hrest := ih (a := a + 1) (Or.inr (by omega))
    rw [readAll?, read?_of_lt m (by omega), hrest, bytesFrom_succ]
    rfl

theorem readAll?_of_not_within (m : Memory) {a count : Nat} (h : ¬ Within a count) :
    m.readAll? a count = none := by
  induction count generalizing a with
  | zero => exact absurd (Or.inl rfl) h
  | succ count ih =>
    obtain ⟨-, hend⟩ := not_within_iff.mp h
    by_cases ha : a < 4096
    · have hrest := ih (a := a + 1) (not_within_iff.mpr (by omega))
      simp [readAll?, hrest]
    · simp [readAll?, read?_of_le m (Nat.not_lt.mp ha)]

theorem writeAll?_of_within (m : Memory) {a : Nat} {values : List UInt8} (h : Within a values.length) :
    m.writeAll? a values = some (m.writeAll a values) := by
  induction values generalizing m a with
  | nil => rfl
  | cons value rest ih =>
    have hend : a + (rest.length + 1) ≤ 4096 := h.resolve_left (Nat.succ_ne_zero rest.length)
    rw [writeAll?, write?_of_lt m value (by omega)]
    exact ih (m.write a value) (Or.inr (by omega))

theorem writeAll?_of_not_within (m : Memory) {a : Nat} {values : List UInt8}
    (h : ¬ Within a values.length) : m.writeAll? a values = none := by
  induction values generalizing m a with
  | nil => exact absurd (Or.inl rfl) h
  | cons value rest ih =>
    obtain ⟨-, hend⟩ := not_within_iff.mp h
    rw [List.length_cons] at hend
    by_cases ha : a < 4096
    · rw [writeAll?, write?_of_lt m value ha]
      exact ih (m.write a value) (not_within_iff.mpr (by omega))
    · rw [writeAll?, write?_of_le m value (Nat.not_lt.mp ha)]
      rfl

end Chip8.Memory
