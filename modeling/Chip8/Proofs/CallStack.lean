import Chip8.CallStack
import Mathlib.Data.List.Basic
import Mathlib.Tactic.SplitIfs

/-!
# The call stack as a list

The view of a call stack is the list of the addresses in use, oldest first, as long as the cells behind
them are clear.

* `CallStack.Holds`: the stack holds the addresses of a list and nothing else.
* `Holds.push`, `Holds.pop`: the operations on the list; `Holds.unique`: the list determines the stack.
* `CallStack.Masked`: no cell holds more than twelve bits; kept by both operations.
* `CallStack.push?`, `CallStack.pop?`: the operations when an access without a cell fails, and when
  they do.
-/

namespace Chip8.CallStack

variable {s t : CallStack} {calls : List Nat}

/-! ## Single cells -/

theorem write_of_nonneg (s : CallStack) {place : Int} (value : UInt16) (h : 0 ≤ place) :
    s.write place value = s.cells.setIfInBounds place.toNat value := by
  have hcell : cellOf place = place := if_neg (by omega)
  rw [write, hcell, if_pos h]

theorem read_of_nonneg (s : CallStack) {place : Int} (h : 0 ≤ place) :
    s.read place = s.cells[min place.toNat 15] := by
  have hcell : cellOf place = place := if_neg (by omega)
  simp only [read, hcell]

theorem toNat_and_low (address : UInt16) : (address &&& 0x0FFF).toNat = address.toNat % 4096 := by
  rw [UInt16.toNat_and]
  exact Nat.and_two_pow_sub_one_eq_mod address.toNat 12

/-! ## The view as a list -/

/-- The stack holds the given addresses, oldest first, and all its other cells are clear. -/
structure Holds (s : CallStack) (calls : List Nat) : Prop where
  depth : s.depth = calls.length
  bound : calls.length ≤ 16
  cells : s.cells.toList.map UInt16.toNat = calls ++ List.replicate (16 - calls.length) 0

theorem holds_empty : empty.Holds [] where
  depth := rfl
  bound := Nat.zero_le 16
  cells := by decide

/-- A push appends the low twelve bits of the address. -/
theorem Holds.push (h : s.Holds calls) (hlt : calls.length < 16) (address : UInt16) :
    (s.push address).Holds (calls ++ [address.toNat % 4096]) where
  depth := by
    show s.depth + 1 = _
    rw [h.depth]
    simp
  bound := by
    rw [List.length_append, List.length_singleton]
    omega
  cells := by
    have hclear : List.replicate (16 - calls.length) 0 =
        0 :: List.replicate (16 - (calls ++ [address.toNat % 4096]).length) 0 := by
      rw [← List.replicate_succ]
      congr 1
      rw [List.length_append, List.length_singleton]
      omega
    show (s.write s.depth (address &&& 0x0FFF)).toList.map UInt16.toNat = _
    rw [write_of_nonneg s _ (by rw [h.depth]; omega), h.depth, Int.toNat_natCast,
      Vector.toList_setIfInBounds, List.map_set, h.cells, toNat_and_low, hclear]
    simp

/-- A pop removes the latest address, and gives it. -/
theorem Holds.pop {address : Nat} (h : s.Holds (calls ++ [address])) :
    s.pop.1.Holds calls ∧ s.pop.2.toNat = address := by
  have hlen : calls.length + 1 ≤ 16 := by simpa using h.bound
  have htop : s.depth - 1 = calls.length := by
    rw [h.depth]
    simp
  have hcells : s.cells.toList.map UInt16.toNat =
      calls ++ address :: List.replicate (16 - (calls.length + 1)) 0 := by
    rw [h.cells]
    simp
  refine ⟨⟨htop, by omega, ?_⟩, ?_⟩
  · show (s.write (s.depth - 1) 0).toList.map UInt16.toNat = _
    rw [htop, write_of_nonneg s _ (by omega), Int.toNat_natCast, Vector.toList_setIfInBounds,
      List.map_set, hcells]
    rw [show 16 - calls.length = 16 - (calls.length + 1) + 1 by omega, List.replicate_succ]
    simp
  · show (s.read (s.depth - 1)).toNat = address
    rw [htop, read_of_nonneg s (by omega)]
    have hget : (s.cells.toList.map UInt16.toNat)[calls.length]? = some address := by
      rw [hcells]
      simp
    have hmin : min (calls.length : Int).toNat 15 = calls.length := by omega
    simp only [hmin]
    simpa [Vector.getElem?_eq_getElem (show calls.length < 16 by omega)] using hget

/-- Two stacks that hold the same addresses are the same. -/
theorem Holds.unique (hs : s.Holds calls) (ht : t.Holds calls) : s = t := by
  have hcells : s.cells = t.cells := by
    apply Vector.toList_inj.mp
    apply List.map_injective_iff.mpr (fun _ _ => UInt16.toNat_inj.mp)
    rw [hs.cells, ht.cells]
  have hdepth : s.depth = t.depth := hs.depth.trans ht.depth.symm
  cases s
  cases t
  cases hcells
  cases hdepth
  rfl

/-! ## Twelve-bit cells -/

/-- Every cell holds an address of twelve bits, also the cells that are not in use. -/
def Masked (s : CallStack) : Prop := ∀ address ∈ s.cells, address.toNat < 4096

theorem read_mem (s : CallStack) (place : Int) : s.read place ∈ s.cells := Vector.getElem_mem _

theorem mem_cells_of_mem_write {place : Int} {value address : UInt16}
    (h : address ∈ s.write place value) : address ∈ s.cells ∨ address = value := by
  rw [write] at h
  split_ifs at h with hplace
  · rw [Vector.mem_iff_getElem] at h
    obtain ⟨k, hk, rfl⟩ := h
    rw [Vector.getElem_setIfInBounds]
    split_ifs with hcell
    · exact Or.inr rfl
    · exact Or.inl (Vector.getElem_mem hk)
  · exact Or.inl h

theorem masked_empty : empty.Masked := by
  intro address h
  rw [Vector.eq_of_mem_replicate h]
  decide

theorem Masked.push (h : s.Masked) (address : UInt16) : (s.push address).Masked := by
  intro a ha
  rcases mem_cells_of_mem_write ha with hold | rfl
  · exact h a hold
  · rw [toNat_and_low]
    exact Nat.mod_lt _ (by decide)

theorem Masked.pop (h : s.Masked) : s.pop.1.Masked ∧ s.pop.2.toNat < 4096 := by
  refine ⟨fun a ha => ?_, h _ (s.read_mem _)⟩
  rcases mem_cells_of_mem_write ha with hold | rfl
  · exact h a hold
  · decide

/-! ## Accesses that fail without a cell -/

/-- The content of the cell at a place, if there is one. -/
def read? (s : CallStack) (place : Int) : Option UInt16 :=
  if 0 ≤ place then s.cells[place.toNat]? else none

/-- The cells after a write, if there is a cell at the place. -/
def write? (s : CallStack) (place : Int) (value : UInt16) : Option (Vector UInt16 16) :=
  if h : 0 ≤ place ∧ place.toNat < 16 then some (s.cells.set place.toNat value h.2) else none

/-- A push that fails unless there is a cell at the pointer. -/
def push? (s : CallStack) (address : UInt16) : Option CallStack := do
  return ⟨← s.write? s.depth (address &&& 0x0FFF), s.depth + 1⟩

/-- A pop that fails unless there is a cell below the pointer. -/
def pop? (s : CallStack) : Option (CallStack × UInt16) := do
  let address ← s.read? (s.depth - 1)
  return (⟨← s.write? (s.depth - 1) 0, s.depth - 1⟩, address)

theorem write?_of_lt (s : CallStack) {place : Int} (value : UInt16) (h : 0 ≤ place) (hlt : place < 16) :
    s.write? place value = some (s.write place value) := by
  rw [write?, dif_pos ⟨h, by omega⟩, write_of_nonneg s value h]
  congr 1
  exact Vector.ext fun k hk => by rw [Vector.getElem_set, Vector.getElem_setIfInBounds]

theorem read?_of_lt (s : CallStack) {place : Int} (h : 0 ≤ place) (hlt : place < 16) :
    s.read? place = some (s.read place) := by
  have hmin : min place.toNat 15 = place.toNat := by omega
  rw [read?, if_pos h, read_of_nonneg s h, Vector.getElem?_eq_getElem (by omega)]
  simp only [hmin]

theorem push?_of_lt (s : CallStack) (address : UInt16) (h : 0 ≤ s.depth) (hlt : s.depth < 16) :
    s.push? address = some (s.push address) := by
  rw [push?, write?_of_lt s _ h hlt]
  rfl

theorem push?_of_full (s : CallStack) (address : UInt16) (h : 16 ≤ s.depth) :
    s.push? address = none := by
  rw [push?, write?, dif_neg (by omega)]
  rfl

theorem pop?_of_pos (s : CallStack) (h : 0 < s.depth) (hle : s.depth ≤ 16) :
    s.pop? = some s.pop := by
  rw [pop?, read?_of_lt s (by omega) (by omega), write?_of_lt s _ (by omega) (by omega)]
  rfl

theorem pop?_of_empty (s : CallStack) (h : s.depth = 0) : s.pop? = none := by
  rw [pop?, read?, if_neg (by omega)]
  rfl

end Chip8.CallStack
