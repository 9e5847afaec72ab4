import Chip8.Proofs.Processor.Effect
import Chip8.Proofs.Processor.Step
import Chip8.Proofs.Screen

/-!
# Sprites pixel by pixel

A sprite is drawn all at once: `Processor.apply` asks of every cell of the screen whether the sprite has a
pixel there. The same comes of drawing it bit by bit.

* `togglePixel`, `drawBit`, `drawRow`, `drawLoop`: one pixel, one bit, one row, and the whole sprite.
* `drawnCells`: the cells that are switched over on the way.
* `foldl_togglePixel`: what becomes of different cells that are switched over one after the other.
* `apply_draw_eq_loop`: both ways of drawing agree.
-/

namespace Chip8.Processor

variable {p : Processor}

/-- The processor with another screen. -/
def withScreen (p : Processor) (screen : Screen) : Processor := { p with screen }

/-- Switch over the pixel at a cell. VF becomes 1 when this switches a lit pixel off. -/
def togglePixel (p : Processor) (c : Nat) : Processor :=
  (if p.screen.lit c then p.setFlag true else p).withScreen (p.screen.toggle c)

/-- Draw one bit of the sprite that I points at. -/
def drawBit (p : Processor) (x y row column : Nat) : Processor :=
  if Screen.spriteBit p.memory p.index.toNat row column then
    p.togglePixel (Screen.cellAt x y row column)
  else p

/-- Draw one row, from the left. -/
def drawRow (p : Processor) (x y row : Nat) : Processor :=
  (List.range 8).foldl (fun p column => p.drawBit x y row column) p

/-- Clear VF and draw the rows of a sprite. Its place is read before. -/
def drawLoop (p : Processor) (x y : Register) (rows : Nibble) : Processor :=
  let column := (p.register x).toNat % 64
  let line := (p.register y).toNat % 32
  (List.range rows).foldl (fun p row => p.drawRow column line row) (p.setFlag false)

/-- The cells of the bits of the sprite. -/
def drawnCells (p : Processor) (x y : Register) (rows : Nibble) : List Nat :=
  Screen.spriteCells p.memory p.index.toNat rows ((p.register x).toNat % 64)
    ((p.register y).toNat % 32)

/-! ## The loop and its cells -/

@[simp] theorem togglePixel_memory (p : Processor) (c : Nat) : (p.togglePixel c).memory = p.memory := by
  unfold togglePixel
  split_ifs <;> rfl

@[simp] theorem togglePixel_index (p : Processor) (c : Nat) : (p.togglePixel c).index = p.index := by
  unfold togglePixel
  split_ifs <;> rfl

@[simp] theorem foldl_togglePixel_memory (p : Processor) (cells : List Nat) :
    (cells.foldl togglePixel p).memory = p.memory := by
  induction cells generalizing p with
  | nil => rfl
  | cons c rest ih => rw [List.foldl_cons, ih, togglePixel_memory]

@[simp] theorem foldl_togglePixel_index (p : Processor) (cells : List Nat) :
    (cells.foldl togglePixel p).index = p.index := by
  induction cells generalizing p with
  | nil => rfl
  | cons c rest ih => rw [List.foldl_cons, ih, togglePixel_index]

theorem foldl_drawBit (p : Processor) (x y row : Nat) (columns : List Nat) :
    columns.foldl (fun p column => p.drawBit x y row column) p =
      ((columns.filter (Screen.spriteBit p.memory p.index.toNat row)).map
        (Screen.cellAt x y row)).foldl togglePixel p := by
  induction columns generalizing p with
  | nil => rfl
  | cons column rest ih =>
    rw [List.foldl_cons, ih, drawBit]
    by_cases hbit : Screen.spriteBit p.memory p.index.toNat row column = true
    · rw [if_pos hbit, togglePixel_memory, togglePixel_index, List.filter_cons_of_pos hbit]
      rfl
    · rw [if_neg hbit, List.filter_cons_of_neg hbit]

theorem foldl_drawRow (p : Processor) (x y : Nat) (rows : List Nat) :
    rows.foldl (fun p row => p.drawRow x y row) p =
      (rows.flatMap fun row =>
        ((List.range 8).filter (Screen.spriteBit p.memory p.index.toNat row)).map
          (Screen.cellAt x y row)).foldl togglePixel p := by
  induction rows generalizing p with
  | nil => rfl
  | cons row rest ih =>
    rw [List.foldl_cons, ih, drawRow, foldl_drawBit, foldl_togglePixel_memory,
      foldl_togglePixel_index, List.flatMap_cons, List.foldl_append]

theorem drawLoop_eq_foldl (p : Processor) (x y : Register) (rows : Nibble) :
    p.drawLoop x y rows = (p.drawnCells x y rows).foldl togglePixel (p.setFlag false) :=
  foldl_drawRow (p.setFlag false) _ _ _

/-! ## Different cells -/

theorem setFlag_setFlag (p : Processor) (flag flag' : Bool) :
    (p.setFlag flag).setFlag flag' = p.setFlag flag' := by
  unfold setFlag setRegister
  simp

theorem setFlag_withScreen (p : Processor) (screen : Screen) (flag : Bool) :
    (p.withScreen screen).setFlag flag = (p.setFlag flag).withScreen screen := rfl

theorem register_withScreen (p : Processor) (screen : Screen) (z : Register) :
    (p.withScreen screen).register z = p.register z := rfl

theorem withScreen_withScreen (p : Processor) (screen screen' : Screen) :
    (p.withScreen screen).withScreen screen' = p.withScreen screen' := rfl

theorem togglePixel_setFlag (p : Processor) (flag : Bool) (c : Nat) :
    (p.setFlag flag).togglePixel c =
      (p.withScreen (p.screen.toggle c)).setFlag (flag || p.screen.lit c) := by
  rw [togglePixel, setFlag_screen, setFlag_setFlag, setFlag_withScreen]
  cases p.screen.lit c with
  | true => rw [Bool.or_true, if_pos rfl]
  | false => rw [Bool.or_false, if_neg Bool.false_ne_true]

/-- Different cells are switched over on the whole, and VF is raised when one of them was lit. -/
theorem foldl_togglePixel (p : Processor) (flag : Bool) {cells : List Nat} (hnodup : cells.Nodup)
    (hlt : ∀ c ∈ cells, c < 2048) :
    cells.foldl togglePixel (p.setFlag flag) =
      (p.setFlag (flag || p.screen.collides (Screen.ofCells cells))).withScreen
        (p.screen.overlay (Screen.ofCells cells)) := by
  rw [Screen.collides_ofCells]
  induction cells generalizing p flag with
  | nil =>
    rw [Screen.overlay_ofCells_nil, List.any_nil, Bool.or_false]
    rfl
  | cons c rest ih =>
    obtain ⟨hfresh, hrest⟩ := List.nodup_cons.mp hnodup
    have hc : c < 2048 := hlt c List.mem_cons_self
    have hothers : ∀ d ∈ rest, d < 2048 := fun d hd => hlt d (List.mem_cons_of_mem c hd)
    have hscreen : (p.withScreen (p.screen.toggle c)).screen = p.screen.toggle c := rfl
    rw [List.foldl_cons, togglePixel_setFlag, ih _ _ hrest hothers, hscreen, setFlag_withScreen,
      withScreen_withScreen, Screen.any_lit_toggle hc hfresh, Screen.overlay_ofCells_cons hc hfresh,
      List.any_cons, Bool.or_assoc]

/-! ## All at once -/

theorem apply_draw (p : Processor) (x y : Register) (rows : Nibble) :
    p.apply (.draw x y rows) =
      let sprite := Screen.sprite p.memory p.index.toNat rows ((p.register x).toNat % 64)
        ((p.register y).toNat % 32)
      (p.setFlag (p.screen.collides sprite)).withScreen (p.screen.overlay sprite) := rfl

/-- Each pixel of the screen is switched over if the sprite has a pixel there. -/
theorem lit_apply_draw (p : Processor) (x y : Register) (rows : Nibble) {c : Nat} (hc : c < 2048) :
    (p.apply (.draw x y rows)).screen.lit c =
      (p.screen.lit c ^^ Screen.spriteLights p.memory p.index.toNat rows ((p.register x).toNat % 64)
        ((p.register y).toNat % 32) c) :=
  Screen.lit_overlay.trans (congrArg _ (Screen.lit_ofFn _ hc))

/-- What is drawn are the cells of the sprite. -/
theorem apply_draw_eq_overlay {x y : Register} {rows : Nibble}
    (hcheck : p.check (.draw x y rows) = .ok ()) :
    p.apply (.draw x y rows) =
      (p.setFlag (p.screen.collides (Screen.ofCells (p.drawnCells x y rows)))).withScreen
        (p.screen.overlay (Screen.ofCells (p.drawnCells x y rows))) := by
  have hrows : rows.val ≤ 32 := by
    have hlt := rows.isLt
    omega
  have hw : Memory.Within p.index.toNat rows := checkRange_eq_ok_iff.mp hcheck
  rw [apply_draw, drawnCells, ← Screen.sprite_eq_ofCells (Nat.mod_lt _ (by decide))
    (Nat.mod_lt _ (by decide)) hrows hw]

theorem nodup_drawnCells (p : Processor) (x y : Register) (rows : Nibble) :
    (p.drawnCells x y rows).Nodup := by
  have hrows : rows.val ≤ 32 := by
    have hlt := rows.isLt
    omega
  exact Screen.nodup_spriteCells (Nat.mod_lt _ (by decide)) (Nat.mod_lt _ (by decide)) hrows

/-- A screen and a flag are all that is new. -/
theorem frame_of_drawn (p : Processor) (screen : Screen) (flag : Bool) :
    (p.setFlag flag).withScreen screen =
      { p with
        screen := ((p.setFlag flag).withScreen screen).screen
        registers := ((p.setFlag flag).withScreen screen).registers } ∧
    ∀ z, z ≠ Register.flag →
      ((p.setFlag flag).withScreen screen).register z = p.register z :=
  ⟨rfl, fun _ hz => p.register_setFlag_of_ne flag hz⟩

/-- **A sprite is drawn pixel by pixel.** A sprite that passes its check is drawn as by the loop, which clears VF
and then goes through the rows and through the bits of each row. Each bit that is set switches one pixel over, and
VF is raised when this pixel was lit. The loop switches over no pixel twice. In the end VF is one when one of its
pixels was lit before, and zero otherwise. Beside the screen and VF nothing is changed. -/
theorem apply_draw_eq_loop (p : Processor) (x y : Register) (rows : Nibble)
    (hcheck : p.check (.draw x y rows) = .ok ()) :
    let q := p.apply (.draw x y rows)
    q = p.drawLoop x y rows ∧
    (p.drawLoop x y rows = (p.drawnCells x y rows).foldl togglePixel (p.setFlag false) ∧
      (p.drawnCells x y rows).Nodup) ∧
    q.register .flag = (if (p.drawnCells x y rows).any p.screen.lit then 1 else 0) ∧
    q = { p with screen := q.screen, registers := q.registers } ∧
    ∀ z, z ≠ Register.flag → q.register z = p.register z := by
  have hloop : p.drawLoop x y rows = (p.drawnCells x y rows).foldl togglePixel (p.setFlag false) :=
    p.drawLoop_eq_foldl x y rows
  have hnodup := p.nodup_drawnCells x y rows
  intro q
  have hq : q = (p.setFlag (p.screen.collides (Screen.ofCells (p.drawnCells x y rows)))).withScreen
      (p.screen.overlay (Screen.ofCells (p.drawnCells x y rows))) := apply_draw_eq_overlay hcheck
  clear_value q
  refine ⟨?_, ⟨hloop, hnodup⟩, ?_, ?_⟩
  · rw [hq, hloop, foldl_togglePixel p false hnodup fun c hc => Screen.lt_of_mem_spriteCells hc,
      Bool.false_or]
  · rw [hq, register_withScreen, register_setFlag_self, Screen.collides_ofCells]
  · rw [hq]
    exact p.frame_of_drawn _ _

/-- The glyph of 0 is drawn over the corner of the screen, and its column is read from VF. -/
theorem apply_draw_eq_loop_of_corner :
    let p : Processor := { ((fresh ⟨0, 0⟩).setRegister 15 62).setRegister 1 30 with index := 0x50 }
    p.check (.draw 15 1 5) = .ok () ∧ p.apply (.draw 15 1 5) = p.drawLoop 15 1 5 ∧
      (p.apply (.draw 15 1 5)).register 15 = 0 := by
  intro p
  have hcheck : p.check (.draw 15 1 5) = .ok () := rfl
  obtain ⟨hloop, -, hflag, -⟩ := apply_draw_eq_loop p 15 1 5 hcheck
  have hdark : (p.drawnCells 15 1 5).any p.screen.lit = false := by decide +kernel
  rw [hdark] at hflag
  exact ⟨hcheck, hloop, hflag⟩

end Chip8.Processor
