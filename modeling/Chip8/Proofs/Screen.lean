import Chip8.Screen
import Chip8.Proofs.Memory
import Mathlib.Data.List.Nodup
import Mathlib.Data.List.Range

/-!
# The screen cell by cell

A sprite is the set of the cells that its bits are drawn to, each bit at a cell of its own.

* `Screen.lit`, `Screen.toggle`: one cell of a screen, and a screen with one cell switched over.
* `Screen.ofCells`: the screen on which the given cells are lit.
* `Screen.spriteCells`: the cells of the bits of a sprite, row by row and from the left.
* `sprite_eq_ofCells`, `nodup_spriteCells`: these are the pixels of the sprite, and none of them occurs twice.
-/

namespace Chip8.Screen

variable {s t : Screen} {c d : Nat}

/-! ## Cells -/

/-- Whether the pixel at a cell is lit. -/
def lit (s : Screen) (c : Nat) : Bool := s[c]?.getD false

/-- The screen with the pixel at a cell switched over. -/
def toggle (s : Screen) (c : Nat) : Screen := s.setIfInBounds c (!s.lit c)

/-- The screen on which the given cells are lit. -/
def ofCells (cells : List Nat) : Screen := Vector.ofFn fun i => decide (i.val ∈ cells)

theorem lit_of_lt (h : c < 2048) : s.lit c = s[c] := by
  rw [lit, Vector.getElem?_eq_getElem h]
  rfl

theorem lit_of_le (h : 2048 ≤ c) : s.lit c = false := by
  rw [lit, Vector.getElem?_eq_none h]
  rfl

/-- A screen is what its cells are. -/
theorem ext_lit (h : ∀ c < 2048, s.lit c = t.lit c) : s = t := by
  refine Vector.ext fun c hc => ?_
  rw [← lit_of_lt hc, ← lit_of_lt hc]
  exact h c hc

theorem lit_ofFn (f : Fin 2048 → Bool) (h : c < 2048) : lit (Vector.ofFn f) c = f ⟨c, h⟩ := by
  rw [lit_of_lt h, Vector.getElem_ofFn]

theorem lit_toggle (h : c < 2048) : (s.toggle c).lit d = (s.lit d ^^ decide (d = c)) := by
  by_cases hd : d < 2048
  · rw [lit_of_lt hd, toggle, Vector.getElem_setIfInBounds hd]
    by_cases hcd : d = c
    · simp [hcd]
    · have hdc : c ≠ d := fun heq => hcd heq.symm
      simp [hcd, hdc, lit_of_lt hd]
  · have hne : d ≠ c := by omega
    rw [lit_of_le (by omega), lit_of_le (by omega), decide_eq_false hne]
    rfl

theorem lit_overlay : (s.overlay t).lit c = (s.lit c ^^ t.lit c) := by
  by_cases hc : c < 2048
  · rw [overlay, lit_ofFn _ hc, lit_of_lt hc, lit_of_lt hc]
    rfl
  · rw [lit_of_le (by omega), lit_of_le (by omega), lit_of_le (by omega)]
    rfl

theorem lit_ofCells {cells : List Nat} :
    (ofCells cells).lit c = (decide (c < 2048) && decide (c ∈ cells)) := by
  by_cases hc : c < 2048
  · rw [ofCells, lit_ofFn _ hc, decide_eq_true hc, Bool.true_and]
  · rw [lit_of_le (by omega), decide_eq_false hc, Bool.false_and]

/-- Two screens collide when some cell is lit in both. -/
theorem collides_iff : s.collides t = true ↔ ∃ c, s.lit c = true ∧ t.lit c = true := by
  rw [collides, List.any_eq_true]
  constructor
  · rintro ⟨i, -, hi⟩
    obtain ⟨hs, ht⟩ := Bool.and_eq_true_iff.mp hi
    exact ⟨i, (lit_of_lt i.isLt).trans hs, (lit_of_lt i.isLt).trans ht⟩
  · rintro ⟨c, hs, ht⟩
    have hc : c < 2048 := by
      by_contra hout
      rw [lit_of_le (by omega)] at hs
      cases hs
    refine ⟨⟨c, hc⟩, List.mem_finRange _, ?_⟩
    rw [lit_of_lt hc] at hs ht
    exact Bool.and_eq_true_iff.mpr ⟨hs, ht⟩

/-! ## Cells that are switched over one after the other -/

section Toggled

variable {cells : List Nat}

theorem overlay_ofCells_nil (s : Screen) : s.overlay (ofCells []) = s := by
  refine ext_lit fun c _ => ?_
  simp [lit_overlay, lit_ofCells]

theorem overlay_ofCells_cons (hc : c < 2048) (hfresh : c ∉ cells) :
    s.overlay (ofCells (c :: cells)) = (s.toggle c).overlay (ofCells cells) := by
  refine ext_lit fun d hd => ?_
  rw [lit_overlay, lit_overlay, lit_toggle hc, lit_ofCells, lit_ofCells]
  by_cases hdc : d = c
  · subst hdc
    simp [hfresh, hd]
  · simp [hdc]

theorem collides_ofCells (s : Screen) (cells : List Nat) :
    s.collides (ofCells cells) = cells.any s.lit := by
  rw [Bool.eq_iff_iff, collides_iff, List.any_eq_true]
  constructor
  · rintro ⟨c, hs, hc⟩
    rw [lit_ofCells, Bool.and_eq_true, decide_eq_true_iff, decide_eq_true_iff] at hc
    exact ⟨c, hc.2, hs⟩
  · rintro ⟨c, hc, hs⟩
    have hlt : c < 2048 := by
      by_contra hout
      rw [lit_of_le (by omega)] at hs
      cases hs
    refine ⟨c, hs, ?_⟩
    rw [lit_ofCells, decide_eq_true hlt, decide_eq_true hc]
    rfl

theorem any_lit_toggle (hc : c < 2048) (hfresh : c ∉ cells) :
    cells.any (s.toggle c).lit = cells.any s.lit := by
  rw [Bool.eq_iff_iff, List.any_eq_true, List.any_eq_true]
  have hsame : ∀ d ∈ cells, (s.toggle c).lit d = s.lit d := by
    intro d hd
    have hne : d ≠ c := fun heq => hfresh (heq ▸ hd)
    rw [lit_toggle hc, decide_eq_false hne, Bool.xor_false]
  constructor
  · rintro ⟨d, hd, hlit⟩
    exact ⟨d, hd, hsame d hd ▸ hlit⟩
  · rintro ⟨d, hd, hlit⟩
    exact ⟨d, hd, (hsame d hd).trans hlit⟩

end Toggled

/-! ## The cells of a sprite -/

/-- The bit of a sprite in a row, counted from the left. -/
def spriteBit (m : Memory) (start row column : Nat) : Bool :=
  m[start + row]?.any fun byte => byte.toNat.testBit (7 - column)

/-- The cell to which a bit of a sprite is drawn, wrapped around both edges. -/
def cellAt (x y row column : Nat) : Nat := 64 * ((y + row) % 32) + (x + column) % 64

/-- The cells of the bits of a sprite, row by row and from the left. -/
def spriteCells (m : Memory) (start rows x y : Nat) : List Nat :=
  (List.range rows).flatMap fun row =>
    ((List.range 8).filter (spriteBit m start row)).map (cellAt x y row)

variable {m : Memory} {start rows x y row column : Nat}

theorem cellAt_lt : cellAt x y row column < 2048 := by
  unfold cellAt
  omega

/-- A cell tells which bit of a sprite is drawn to it. -/
theorem cellAt_eq_iff (hx : x < 64) (hy : y < 32) (hrow : row < 32) (hcolumn : column < 64)
    (hc : c < 2048) :
    cellAt x y row column = c ↔
      distance width x (c % width) = column ∧ distance height y (c / width) = row := by
  unfold cellAt distance width height
  constructor
  · rintro rfl
    omega
  · rintro ⟨rfl, rfl⟩
    omega

theorem mem_spriteCells :
    c ∈ spriteCells m start rows x y ↔ ∃ row < rows, ∃ column < 8,
      spriteBit m start row column = true ∧ cellAt x y row column = c := by
  simp [spriteCells, and_assoc]

theorem lt_of_mem_spriteCells (h : c ∈ spriteCells m start rows x y) : c < 2048 := by
  obtain ⟨row, -, column, -, -, rfl⟩ := mem_spriteCells.mp h
  exact cellAt_lt

theorem spriteBit_eq (hw : Memory.Within start rows) (hrow : row < rows) :
    spriteBit m start row column = (m.byteAt (start + row)).toNat.testBit (7 - column) := by
  have hlt : start + row < 4096 := by
    rcases hw with hnone | hend <;> omega
  rw [spriteBit, Memory.getElem?_of_lt m hlt]
  rfl

/-- The pixels of a sprite whose bytes are all in memory are the cells of its bits. -/
theorem sprite_eq_ofCells (hx : x < 64) (hy : y < 32) (hrows : rows ≤ 32)
    (hw : Memory.Within start rows) :
    sprite m start rows x y = ofCells (spriteCells m start rows x y) := by
  refine ext_lit fun c hc => ?_
  rw [sprite, lit_ofFn _ hc, lit_ofCells, decide_eq_true hc, Bool.true_and, Bool.eq_iff_iff,
    decide_eq_true_iff, mem_spriteCells]
  simp only [spriteLights, Bool.and_eq_true, decide_eq_true_iff]
  constructor
  · rintro ⟨⟨hcolumn, hrow⟩, hset⟩
    refine ⟨_, hrow, _, hcolumn, ?_, (cellAt_eq_iff hx hy (by omega) (by omega) hc).mpr ⟨rfl, rfl⟩⟩
    rw [spriteBit_eq hw hrow]
    exact hset
  · rintro ⟨row, hrow, column, hcolumn, hset, hcell⟩
    obtain ⟨rfl, rfl⟩ := (cellAt_eq_iff hx hy (by omega) (by omega) hc).mp hcell
    rw [spriteBit_eq hw hrow] at hset
    exact ⟨⟨hcolumn, hrow⟩, hset⟩

theorem cellAt_inj {row' column' : Nat} (hx : x < 64) (hy : y < 32) (hrow : row < 32) (hrow' : row' < 32)
    (hcolumn : column < 64) (hcolumn' : column' < 64)
    (h : cellAt x y row column = cellAt x y row' column') : row = row' ∧ column = column' := by
  obtain ⟨hc, hr⟩ := (cellAt_eq_iff hx hy hrow hcolumn cellAt_lt).mp h
  obtain ⟨hc', hr'⟩ := (cellAt_eq_iff hx hy hrow' hcolumn' cellAt_lt).mp rfl
  exact ⟨hr.symm.trans hr', hc.symm.trans hc'⟩

/-- No two bits of a sprite are drawn to the same cell. -/
theorem nodup_spriteCells (hx : x < 64) (hy : y < 32) (hrows : rows ≤ 32) :
    (spriteCells m start rows x y).Nodup := by
  have hsmall : ∀ row ∈ List.range rows, row < 32 :=
    fun row hrow => Nat.lt_of_lt_of_le (List.mem_range.mp hrow) hrows
  have hnarrow : ∀ row, ∀ column ∈ (List.range 8).filter (spriteBit m start row), column < 64 := by
    intro row column hcolumn
    have hlt : column < 8 := List.mem_range.mp (List.mem_of_mem_filter hcolumn)
    omega
  refine List.nodup_flatMap.mpr ⟨fun row hrow => ?_, ?_⟩
  · refine (List.nodup_range.filter _).map_on ?_
    intro column hcolumn column' hcolumn' heq
    exact (cellAt_inj hx hy (hsmall row hrow) (hsmall row hrow) (hnarrow row column hcolumn)
      (hnarrow row column' hcolumn') heq).2
  · refine List.nodup_range.pairwise_of_forall_ne ?_
    intro row hrow row' hrow' hne c hc hc'
    obtain ⟨column, hcolumn, rfl⟩ := List.mem_map.mp hc
    obtain ⟨column', hcolumn', heq⟩ := List.mem_map.mp hc'
    exact hne (cellAt_inj hx hy (hsmall row hrow) (hsmall row' hrow') (hnarrow row column hcolumn)
      (hnarrow row' column' hcolumn') heq.symm).1

end Chip8.Screen
