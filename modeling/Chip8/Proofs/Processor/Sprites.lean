import Chip8.Proofs.Processor.Drawing
import Mathlib.Data.List.Perm.Basic

/-!
# Sprites over sprites

Sprites that are drawn one after the other are switched over each on its own, wherever they overlap. So it does
not matter which one comes first, and a sprite that is drawn again is gone.

* `Drawing`, `Processor.drawAll`: a sprite to be drawn, and many of them one after the other.
* `Processor.bitmap`: the screen on which the pixels of a sprite alone are lit.
* `Processor.Redrawn`: two processors that differ in the screen and in VF only.
* `drawAll_valid`: what many sprites come to; `drawAll_twice`: what a sprite drawn twice comes to.
* `sprites_compose`: all of it.
-/

namespace Chip8

/-! ## Screens that are switched over -/

namespace Screen

variable {s t u : Screen}

theorem overlay_right_comm (s t u : Screen) : (s.overlay t).overlay u = (s.overlay u).overlay t := by
  refine ext_lit fun c _ => ?_
  simp only [lit_overlay]
  exact Bool.xor_right_comm _ _ _

instance : RightCommutative overlay := ⟨overlay_right_comm⟩

theorem overlay_overlay_self (s t : Screen) : (s.overlay t).overlay t = s := by
  refine ext_lit fun c _ => ?_
  rw [lit_overlay, lit_overlay, Bool.xor_assoc, Bool.xor_self, Bool.xor_false]

end Screen

/-! ## Drawings -/

/-- A sprite to be drawn: the registers with its column and its line, and the number of its rows. -/
structure Drawing where
  x : Register
  y : Register
  rows : Nibble

/-- The instruction that draws the sprite. -/
def Drawing.instruction (d : Drawing) : Instruction := .draw d.x d.y d.rows

namespace Processor

variable {p q r : Processor} {d : Drawing} {drawings : List Drawing}

/-- The cells that the bits of the sprite are drawn to. -/
def cellsOf (p : Processor) (d : Drawing) : List Nat := p.drawnCells d.x d.y d.rows

/-- The screen on which the pixels of the sprite alone are lit. -/
def bitmap (p : Processor) (d : Drawing) : Screen := Screen.ofCells (p.cellsOf d)

/-- Its place is not read from VF, and its bytes are all in memory. -/
structure Drawable (p : Processor) (d : Drawing) : Prop where
  column : d.x ≠ .flag
  line : d.y ≠ .flag
  check : p.check d.instruction = .ok ()

/-- Draw sprites one after the other. -/
def drawAll (p : Processor) (drawings : List Drawing) : Except Fault Processor :=
  drawings.foldlM (fun p d => p.execute d.instruction) p

/-- The screen and VF are all that may be new. -/
structure Redrawn (p q : Processor) : Prop where
  frame : q = { p with screen := q.screen, registers := q.registers }
  registers : ∀ z, z ≠ .flag → q.register z = p.register z

theorem Redrawn.refl (p : Processor) : p.Redrawn p := ⟨rfl, fun _ _ => rfl⟩

theorem Redrawn.trans (h : p.Redrawn q) (h' : q.Redrawn r) : p.Redrawn r := by
  refine ⟨?_, fun z hz => (h'.registers z hz).trans (h.registers z hz)⟩
  rw [h'.frame, h.frame]

/-- What is drawn depends neither on the screen nor on VF. -/
theorem Redrawn.cellsOf_eq (h : p.Redrawn q) (hd : p.Drawable d) : q.cellsOf d = p.cellsOf d := by
  have hmemory : q.memory = p.memory := by rw [h.frame]
  have hindex : q.index = p.index := by rw [h.frame]
  rw [cellsOf, drawnCells, hmemory, hindex, h.registers _ hd.column, h.registers _ hd.line]
  rfl

theorem Redrawn.drawable (h : p.Redrawn q) (hd : p.Drawable d) : q.Drawable d := by
  have hindex : q.index = p.index := by rw [h.frame]
  refine ⟨hd.column, hd.line, ?_⟩
  show checkRange q.index.toNat _ = _
  rw [hindex]
  exact hd.check

/-- One sprite: the screen is switched over, and VF tells whether a pixel of it was lit. -/
theorem exists_drawn (hd : p.Drawable d) :
    ∃ q, p.execute d.instruction = .ok q ∧ p.Redrawn q ∧ q.screen = p.screen.overlay (p.bitmap d) ∧
      q.register .flag = if (p.cellsOf d).any p.screen.lit then 1 else 0 := by
  have happly := apply_draw_eq_overlay hd.check
  have hexecute := execute_of_check hd.check
  have hframe : ∀ screen flag, p.Redrawn ((p.setFlag flag).withScreen screen) := by
    intro screen flag
    obtain ⟨hrest, hothers⟩ := p.frame_of_drawn screen flag
    exact ⟨hrest, hothers⟩
  have hflag : ∀ screen flag,
      ((p.setFlag flag).withScreen screen).register .flag = if flag then 1 else 0 :=
    fun _ flag => p.register_setFlag_self flag
  refine ⟨_, hexecute, ?_, ?_, ?_⟩
  · rw [Drawing.instruction, happly]
    exact hframe _ _
  · rw [Drawing.instruction, happly]
    rfl
  · rw [Drawing.instruction, happly, hflag, Screen.collides_ofCells]
    rfl

/-- Many sprites: the screen is switched over by each of them. -/
theorem drawAll_valid (hall : ∀ d ∈ drawings, p.Drawable d) :
    ∃ q, p.drawAll drawings = .ok q ∧ p.Redrawn q ∧
      q.screen = (drawings.map p.bitmap).foldl Screen.overlay p.screen := by
  induction drawings generalizing p with
  | nil => exact ⟨p, rfl, .refl p, rfl⟩
  | cons d rest ih =>
    obtain ⟨q, hexecute, hredrawn, hscreen, -⟩ := exists_drawn (hall d List.mem_cons_self)
    have hrest : ∀ e ∈ rest, p.Drawable e := fun e he => hall e (List.mem_cons_of_mem d he)
    obtain ⟨r, hdraw, hredrawn', hlast⟩ := ih (p := q) fun e he => hredrawn.drawable (hrest e he)
    refine ⟨r, ?_, hredrawn.trans hredrawn', ?_⟩
    · rw [drawAll, List.foldlM_cons, hexecute]
      exact hdraw
    · -- the bitmaps of the others are those that they have before the first one is drawn
      have hbitmaps : rest.map q.bitmap = rest.map p.bitmap :=
        List.map_congr_left fun e he => congrArg Screen.ofCells (hredrawn.cellsOf_eq (hrest e he))
      rw [hlast, hbitmaps, hscreen, List.map_cons, List.foldl_cons]

/-- A sprite drawn twice is gone. -/
theorem drawAll_twice (hd : p.Drawable d) :
    ∃ once twice, p.drawAll [d] = .ok once ∧ once.drawAll [d] = .ok twice ∧
      p.drawAll [d, d] = .ok twice ∧ twice.screen = p.screen ∧
      (once.register .flag = if (p.cellsOf d).any p.screen.lit then 1 else 0) ∧
      twice.register .flag = if (p.cellsOf d).any fun c => !p.screen.lit c then 1 else 0 := by
  obtain ⟨once, hexecute, hredrawn, hscreen, hflag⟩ := exists_drawn hd
  obtain ⟨twice, hexecute', -, hscreen', hflag'⟩ := exists_drawn (hredrawn.drawable hd)
  have hcells := hredrawn.cellsOf_eq hd
  have hbitmap : once.bitmap d = p.bitmap d := congrArg Screen.ofCells hcells
  have hone : ∀ {r s : Processor}, r.execute d.instruction = .ok s → r.drawAll [d] = .ok s := by
    intro r s h
    rw [drawAll, List.foldlM_cons, h]
    rfl
  refine ⟨once, twice, hone hexecute, hone hexecute', ?_, ?_, hflag, ?_⟩
  · rw [drawAll, List.foldlM_cons, hexecute]
    exact hone hexecute'
  · rw [hscreen', hscreen, hbitmap, Screen.overlay_overlay_self]
  · -- the first time each pixel of the sprite was switched over
    have hover : ∀ c ∈ p.cellsOf d, once.screen.lit c = !p.screen.lit c := by
      intro c hc
      have hlt : c < 2048 := Screen.lt_of_mem_spriteCells hc
      have hlit : (p.bitmap d).lit c = true := by
        rw [bitmap, Screen.lit_ofCells, decide_eq_true hlt, decide_eq_true hc]
        rfl
      rw [hscreen, Screen.lit_overlay, hlit, Bool.xor_true]
    have hany : (p.cellsOf d).any once.screen.lit = (p.cellsOf d).any fun c => !p.screen.lit c := by
      rw [Bool.eq_iff_iff, List.any_eq_true, List.any_eq_true]
      refine exists_congr fun c => and_congr_right fun hc => ?_
      rw [hover c hc]
    rw [hflag', hcells, hany]

/-- **Sprites compose by exclusive or.** Let sprites be drawn one after the other, none of which reads its place
from VF or bytes beyond memory. This never fails; it changes nothing but the screen and VF, and the screen is
switched over by the pixels of each sprite, in whatever order they are drawn. A sprite that is drawn twice is
gone. VF then tells after the first time whether some pixel of it was lit before, and after the second time
whether some pixel of it was dark before the first. -/
theorem sprites_compose (p : Processor) :
    (∀ drawings, (∀ d ∈ drawings, p.Drawable d) →
      ∃ q, p.drawAll drawings = .ok q ∧ p.Redrawn q ∧
        q.screen = (drawings.map p.bitmap).foldl Screen.overlay p.screen ∧
        ∀ others, drawings.Perm others → ∃ r, p.drawAll others = .ok r ∧ r.screen = q.screen) ∧
    ∀ d, p.Drawable d → ∃ once twice,
      p.drawAll [d] = .ok once ∧ once.drawAll [d] = .ok twice ∧ p.drawAll [d, d] = .ok twice ∧
      twice.screen = p.screen ∧
      (once.register .flag = if (p.cellsOf d).any p.screen.lit then 1 else 0) ∧
      twice.register .flag = if (p.cellsOf d).any fun c => !p.screen.lit c then 1 else 0 := by
  refine ⟨fun drawings hall => ?_, fun d hd => drawAll_twice hd⟩
  obtain ⟨q, hdraw, hredrawn, hscreen⟩ := drawAll_valid hall
  refine ⟨q, hdraw, hredrawn, hscreen, fun others hperm => ?_⟩
  have hothers : ∀ d ∈ others, p.Drawable d := fun d hd => hall d (hperm.mem_iff.mpr hd)
  obtain ⟨r, hdraw', -, hscreen'⟩ := drawAll_valid hothers
  refine ⟨r, hdraw', ?_⟩
  rw [hscreen', hscreen, (hperm.map p.bitmap).foldl_eq]

/-- Two glyphs overlap at the corner of the screen, where one pixel is lit before. -/
theorem sprites_compose_of_corner :
    ∃ p q r once twice : Processor,
      p.drawAll [⟨1, 2, 5⟩, ⟨2, 1, 5⟩, ⟨1, 1, 3⟩] = .ok q ∧
      p.drawAll [⟨1, 1, 3⟩, ⟨2, 1, 5⟩, ⟨1, 2, 5⟩] = .ok r ∧ r.screen = q.screen ∧
      p.drawAll [⟨1, 2, 5⟩] = .ok once ∧ once.drawAll [⟨1, 2, 5⟩] = .ok twice ∧
      twice.screen = p.screen ∧ once.register .flag = 1 ∧ twice.register .flag = 1 := by
  let p : Processor := { ((fresh ⟨0, 0⟩).setRegister 1 62).setRegister 2 30 with
    index := 0x50, screen := Screen.ofCells [1] }
  have hone : p.Drawable ⟨1, 2, 5⟩ := ⟨by decide, by decide, rfl⟩
  have hall : ∀ d ∈ ([⟨1, 2, 5⟩, ⟨2, 1, 5⟩, ⟨1, 1, 3⟩] : List Drawing), p.Drawable d := by
    intro d hd
    simp only [List.mem_cons, List.not_mem_nil, or_false] at hd
    rcases hd with rfl | rfl | rfl
    · exact hone
    · exact ⟨by decide, by decide, rfl⟩
    · exact ⟨by decide, by decide, rfl⟩
  obtain ⟨hmany, htwice⟩ := sprites_compose p
  obtain ⟨q, hdraw, -, -, hothers⟩ := hmany _ hall
  obtain ⟨r, hdraw', hsame⟩ := hothers [⟨1, 1, 3⟩, ⟨2, 1, 5⟩, ⟨1, 2, 5⟩]
    (List.reverse_perm ([⟨1, 2, 5⟩, ⟨2, 1, 5⟩, ⟨1, 1, 3⟩] : List Drawing)).symm
  obtain ⟨once, twice, hfirst, hsecond, -, hgone, hflag, hflag'⟩ := htwice _ hone
  have hlit : (p.cellsOf ⟨1, 2, 5⟩).any p.screen.lit = true := by
    refine List.any_eq_true.mpr ⟨1, by decide +kernel, ?_⟩
    rw [Screen.lit_ofCells]
    rfl
  have hdark : ((p.cellsOf ⟨1, 2, 5⟩).any fun c => !p.screen.lit c) = true := by
    refine List.any_eq_true.mpr ⟨64 * 30 + 62, by decide +kernel, ?_⟩
    rw [Screen.lit_ofCells]
    rfl
  rw [if_pos hlit] at hflag
  rw [if_pos hdark] at hflag'
  exact ⟨p, q, r, once, twice, hdraw, hdraw', hsame, hfirst, hsecond, hgone, hflag, hflag'⟩

end Processor

end Chip8
