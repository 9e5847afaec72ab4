import Chip8.Picture.Basic
import Chip8.Proofs.Screen

/-!
# Pictures pixel by pixel

A picture is made by painting, enlarging and ruling whole rows. Each of its pixels has a colour that can be told at
once from the cells, whatever the scale is. The last row and column of an enlarged cell are never
under the grid, and so the cells can be read back from the picture.

* `Picture.pixel?`, `Picture.Sized`: one pixel, and the number of rows and columns.
* `pixel?_plain`, `pixel?_magnify`, `pixel?_ruled`: a pixel after each of the steps.
* `Picture.colourAt`: the colour that a pixel has by its place.
* `Picture.sampled`: the cells that are read back.
* `pixel_law`: the picture of cells.
-/

namespace Chip8.Picture

variable {rows : List (List Colour)} {factor height width r c : Nat}

/-! ## Pixels -/

/-- The colour of the pixel in a row and a column. -/
def pixel? (p : Picture) (r c : Nat) : Option Colour := p.rows[r]?.bind (·[c]?)

/-- The picture has a number of rows, all of them with a number of columns. -/
structure Sized (p : Picture) (height width : Nat) : Prop where
  rows : p.rows.length = height
  columns : ∀ row ∈ p.rows, row.length = width

theorem sized_plain (screen : Screen) (on off : Colour) : Sized ⟨plain screen on off⟩ 32 64 where
  rows := by simp [plain, Screen.height]
  columns row hrow := by
    obtain ⟨y, -, rfl⟩ := List.mem_map.mp hrow
    simp [Screen.width]

theorem getD_eq_lit (screen : Screen) (k : Nat) : screen.getD k false = screen.lit k := by
  rw [Vector.getD, Array.getD_eq_getD_getElem?, Vector.getElem?_toArray]
  rfl

theorem pixel?_plain (screen : Screen) (on off : Colour) (hr : r < 32) (hc : c < 64) :
    pixel? ⟨plain screen on off⟩ r c = some (if screen.lit (64 * r + c) then on else off) := by
  simp [pixel?, plain, Screen.height, Screen.width, getD_eq_lit, hr, hc]

/-! ## Larger pictures -/

/-- The rows with each pixel as a square of pixels. -/
def magnify (factor : Nat) (rows : List (List Colour)) : List (List Colour) :=
  enlarge factor (rows.map (enlarge factor))

section Enlarged

variable {α : Type}

theorem enlarge_cons (factor : Nat) (x : α) (xs : List α) :
    enlarge factor (x :: xs) = List.replicate factor x ++ enlarge factor xs := rfl

theorem length_enlarge (factor : Nat) (xs : List α) : (enlarge factor xs).length = xs.length * factor := by
  induction xs with
  | nil => exact (Nat.zero_mul factor).symm
  | cons x xs ih =>
    rw [enlarge_cons, List.length_append, List.length_replicate, ih, List.length_cons, Nat.succ_mul,
      Nat.add_comm]

theorem getElem?_enlarge (hfactor : 0 < factor) (xs : List α) (i : Nat) :
    (enlarge factor xs)[i]? = xs[i / factor]? := by
  induction xs generalizing i with
  | nil => rfl
  | cons x xs ih =>
    rw [enlarge_cons]
    rcases Nat.lt_or_ge i factor with hlt | hge
    · rw [List.getElem?_append_left (by simpa using hlt), List.getElem?_replicate_of_lt hlt,
        Nat.div_eq_of_lt hlt]
      rfl
    · rw [List.getElem?_append_right (by simpa using hge), List.length_replicate, ih,
        Nat.div_eq_sub_div hfactor hge]
      rfl

end Enlarged

theorem sized_magnify (factor : Nat) (h : Sized ⟨rows⟩ height width) :
    Sized ⟨magnify factor rows⟩ (height * factor) (width * factor) where
  rows := by rw [magnify, length_enlarge, List.length_map, h.rows]
  columns row hrow := by
    obtain ⟨wide, hwide, hrow⟩ := List.mem_flatMap.mp hrow
    obtain ⟨old, hold, rfl⟩ := List.mem_map.mp hwide
    rw [List.eq_of_mem_replicate hrow, length_enlarge, h.columns old hold]

theorem pixel?_magnify (hfactor : 0 < factor) (rows : List (List Colour)) (r c : Nat) :
    pixel? ⟨magnify factor rows⟩ r c = pixel? ⟨rows⟩ (r / factor) (c / factor) := by
  unfold pixel? magnify
  rw [getElem?_enlarge hfactor, List.getElem?_map, Option.bind_map]
  congr 1
  funext row
  exact getElem?_enlarge hfactor row c

/-! ## The grid -/

theorem sized_ruled (line : Colour) (h : Sized ⟨rows⟩ height width) :
    Sized ⟨rule factor line rows⟩ height width where
  rows := by rw [rule, List.length_mapIdx, h.rows]
  columns row hrow := by
    obtain ⟨r, hr, rfl⟩ := List.mem_mapIdx.mp hrow
    rw [List.length_mapIdx, h.columns _ (List.getElem_mem hr)]

theorem pixel?_ruled (line : Colour) (r c : Nat) :
    pixel? ⟨rule factor line rows⟩ r c =
      (pixel? ⟨rows⟩ r c).map fun old => if factor ∣ r ∨ factor ∣ c then line else old := by
  simp only [pixel?, rule, List.getElem?_mapIdx, Nat.dvd_iff_mod_eq_zero]
  cases rows[r]? with
  | none => rfl
  | some row => simp [List.getElem?_mapIdx]

/-! ## The whole picture -/

/-- The number of rows and of columns of a cell: the scale, but at least 1. -/
def side (scale : Int) : Nat := (max 1 scale).toNat

/-- The colour that a pixel has by its place: that of its cell, unless it lies on a line of the grid. -/
def colourAt (lit : Nat → Bool) (scale : Int) (on off : Colour) (grid : Option Colour) (r c : Nat) : Colour :=
  let own := if lit (64 * (r / side scale) + c / side scale) then on else off
  match grid with
  | some line => if 1 < scale ∧ (side scale ∣ r ∨ side scale ∣ c) then line else own
  | none => own

section Painted

variable {scale : Int} (screen : Screen) (on off : Colour) (grid : Option Colour)

theorem side_pos (scale : Int) : 0 < side scale := by
  unfold side
  omega

theorem side_of_lt (h : 1 < scale) : side scale = scale.toNat := by
  unfold side
  omega

theorem side_of_not_lt (h : ¬ 1 < scale) : side scale = 1 := by
  unfold side
  omega

theorem colourAt_of_unruled (lit : Nat → Bool) (h : ¬ (1 < scale ∧ (side scale ∣ r ∨ side scale ∣ c))) :
    colourAt lit scale on off grid r c =
      if lit (64 * (r / side scale) + c / side scale) then on else off := by
  cases grid with
  | none => rfl
  | some line => exact if_neg h

theorem paint_of_lt (h : 1 < scale) :
    paint screen scale on off grid =
      match grid with
      | some line => ⟨rule (side scale) line (magnify (side scale) (plain screen on off))⟩
      | none => ⟨magnify (side scale) (plain screen on off)⟩ := by
  rw [paint, if_pos h, side_of_lt h]
  cases grid <;> rfl

theorem paint_of_not_lt (h : ¬ 1 < scale) : paint screen scale on off grid = ⟨plain screen on off⟩ :=
  if_neg h

theorem sized_paint (scale : Int) :
    (paint screen scale on off grid).Sized (32 * side scale) (64 * side scale) := by
  by_cases h : 1 < scale
  · rw [paint_of_lt _ _ _ _ h]
    have hlarge := sized_magnify (side scale) (sized_plain screen on off)
    cases grid with
    | none => exact hlarge
    | some line => exact sized_ruled line hlarge
  · rw [paint_of_not_lt _ _ _ _ h, side_of_not_lt h]
    exact sized_plain screen on off

theorem pixel?_paint (hr : r < 32 * side scale) (hc : c < 64 * side scale) :
    (paint screen scale on off grid).pixel? r c =
      some (colourAt screen.lit scale on off grid r c) := by
  have hrow : r / side scale < 32 := Nat.div_lt_of_lt_mul (by rwa [Nat.mul_comm])
  have hcolumn : c / side scale < 64 := Nat.div_lt_of_lt_mul (by rwa [Nat.mul_comm])
  have hplain := pixel?_plain screen on off hrow hcolumn
  by_cases h : 1 < scale
  · rw [paint_of_lt _ _ _ _ h]
    have hlarge := (pixel?_magnify (side_pos scale) (plain screen on off) r c).trans hplain
    cases grid with
    | none => exact hlarge
    | some line =>
      refine (pixel?_ruled line r c).trans ?_
      rw [hlarge, colourAt]
      simp only [h, true_and, Option.map_some]
  · rw [paint_of_not_lt _ _ _ _ h]
    rw [colourAt_of_unruled _ _ _ _ fun hruled => h hruled.1, ← hplain, side_of_not_lt h, Nat.div_one,
      Nat.div_one]

end Painted

/-! ## The corners of the cells -/

/-- The last pixel of a row or column of a cell, counted from the first cell on. -/
def corner (s k : Nat) : Nat := s * k + s - 1

theorem corner_lt {s k n : Nat} (hs : 0 < s) (hk : k < n) : corner s k < n * s := by
  have hle : s * (k + 1) ≤ s * n := Nat.mul_le_mul_left s hk
  rw [Nat.mul_succ] at hle
  rw [Nat.mul_comm n s, corner]
  omega

theorem corner_div {s : Nat} (hs : 0 < s) (k : Nat) : corner s k / s = k := by
  rw [corner, Nat.add_sub_assoc hs, Nat.mul_add_div hs, Nat.div_eq_of_lt (Nat.sub_lt hs Nat.one_pos),
    Nat.add_zero]

theorem not_dvd_corner {s : Nat} (hs : 1 < s) (k : Nat) : ¬ s ∣ corner s k := by
  rw [corner, Nat.add_sub_assoc (Nat.le_of_lt hs), Nat.dvd_add_right (Nat.dvd_mul_right s k)]
  exact Nat.not_dvd_of_pos_of_lt (by omega) (by omega)

/-- No line of the grid is at the corner of a cell. -/
theorem colourAt_corner (lit : Nat → Bool) (scale : Int) (on off : Colour) (grid : Option Colour)
    (y x : Nat) :
    colourAt lit scale on off grid (corner (side scale) y) (corner (side scale) x) =
      if lit (64 * y + x) then on else off := by
  have hunruled : ¬ (1 < scale ∧
      (side scale ∣ corner (side scale) y ∨ side scale ∣ corner (side scale) x)) := by
    rintro ⟨hscale, hruled⟩
    have hside : 1 < side scale := by
      rw [side_of_lt hscale]
      omega
    exact hruled.elim (not_dvd_corner hside y) (not_dvd_corner hside x)
  rw [colourAt_of_unruled _ _ _ _ hunruled, corner_div (side_pos scale), corner_div (side_pos scale)]

/-! ## Pictures of cells -/

section Cells

variable {cells : List Cell}

theorem colour_parts (colour : Colour) : colour.parts.colour = .ok colour := by
  have hcheck : ∀ part : UInt8, Parts.colour.check (part.toNat : Int) = .ok part := by
    intro part
    have hlt := part.toNat_lt
    rw [Parts.colour.check, if_pos (by omega), Int.toNat_natCast, UInt8.ofNat_toNat]
  rw [Parts.colour, Colour.parts, hcheck, hcheck, hcheck]
  rfl

theorem exists_screen (h : cells.length = 2048) :
    ∃ screen, Screen.ofCells? cells = some screen ∧ ∀ k, screen.lit k = cells[k]?.any Cell.lit := by
  refine ⟨_, dif_pos h, fun k => ?_⟩
  rw [Screen.lit, Vector.getElem?_mk, List.getElem?_toArray, List.getElem?_map]
  cases cells[k]? <;> rfl

theorem ofCells_of_screen {screen : Screen} (h : Screen.ofCells? cells = some screen) (scale : Int)
    (on off : Colour) (grid : Option Colour) :
    ofCells cells scale on.parts off.parts (grid.map Colour.parts) = .ok (paint screen scale on off grid) := by
  have hgrid : (grid.map Colour.parts).mapM Parts.colour = .ok grid := by
    cases grid with
    | none => rfl
    | some line =>
      show some <$> line.parts.colour = _
      rw [colour_parts]
      rfl
  rw [ofCells, h]
  dsimp only
  rw [colour_parts, colour_parts]
  simp only [bind, Except.bind]
  by_cases hscale : 1 < scale
  · rw [if_pos hscale, hgrid]
    rfl
  · rw [if_neg hscale, paint_of_not_lt _ _ _ _ hscale]
    exact congrArg Except.ok (paint_of_not_lt _ _ _ _ hscale)

/-- The cells that are lit, read off at the corners of the cells. -/
def sampled (p : Picture) (s : Nat) (on : Colour) : List Bool :=
  (List.range 2048).map fun k => p.pixel? (corner s (k / 64)) (corner s (k % 64)) == some on

/-- Where all pixels have the colours of their places, each corner tells whether its cell is lit. -/
theorem sampled_eq {p : Picture} {scale : Int} {on off : Colour} {grid : Option Colour} (hne : on ≠ off)
    (hsize : cells.length = 2048)
    (hpixel : ∀ r c, r < 32 * side scale → c < 64 * side scale →
      p.pixel? r c = some (colourAt (fun k => cells[k]?.any Cell.lit) scale on off grid r c)) :
    p.sampled (side scale) on = cells.map Cell.lit := by
  refine List.ext_getElem? fun k => ?_
  rw [sampled, ← hsize, List.getElem?_map, List.getElem?_map]
  rcases Nat.lt_or_ge k cells.length with hk | hk
  · have hside := side_pos scale
    have hrow : corner (side scale) (k / 64) < 32 * side scale := corner_lt hside (by omega)
    have hcolumn : corner (side scale) (k % 64) < 64 * side scale := corner_lt hside (by omega)
    have hcell : 64 * (k / 64) + k % 64 = k := Nat.div_add_mod k 64
    rw [List.getElem?_range hk, List.getElem?_eq_getElem hk, Option.map_some, Option.map_some,
      hpixel _ _ hrow hcolumn, colourAt_corner, hcell, List.getElem?_eq_getElem hk, Option.any_some]
    cases cells[k].lit with
    | true => simp
    | false => simp [hne.symm]
  · rw [List.getElem?_eq_none hk, List.getElem?_eq_none (by simpa using hk)]
    rfl

/-- **The law of pixels.** Cells, line by line, make up a picture when there are 2048 of them. It has 32 rows and 64
columns of cells, each of as many rows and columns as the scale says, and all its pixels have the colours of
their places. If lit cells have a colour of their own, then the cells can be read back, with a grid and
without. -/
theorem pixel_law (cells : List Cell) (scale : Int) (on off : Colour) (grid : Option Colour) :
    (cells.length ≠ 2048 →
      ofCells cells scale on.parts off.parts (grid.map Colour.parts) = .error (.wrongSize cells.length)) ∧
    (cells.length = 2048 → ∃ picture,
      ofCells cells scale on.parts off.parts (grid.map Colour.parts) = .ok picture ∧
      picture.Sized (32 * side scale) (64 * side scale) ∧
      (∀ r c, r < 32 * side scale → c < 64 * side scale →
        picture.pixel? r c =
          some (colourAt (fun k => cells[k]?.any Cell.lit) scale on off grid r c)) ∧
      (on ≠ off → picture.sampled (side scale) on = cells.map Cell.lit)) := by
  refine ⟨fun hsize => ?_, fun hsize => ?_⟩
  · have hnone : Screen.ofCells? cells = none := dif_neg hsize
    rw [ofCells, hnone]
  · obtain ⟨screen, hscreen, hlit⟩ := exists_screen hsize
    have hpixel : ∀ r c, r < 32 * side scale → c < 64 * side scale →
        (paint screen scale on off grid).pixel? r c =
          some (colourAt (fun k => cells[k]?.any Cell.lit) scale on off grid r c) := by
      intro r c hr hc
      rw [pixel?_paint _ _ _ _ hr hc, funext hlit]
    exact ⟨_, ofCells_of_screen hscreen scale on off grid, sized_paint screen on off grid scale, hpixel,
      fun hne => sampled_eq hne hsize hpixel⟩

/-- Under a grid, the first cell alone is lit. -/
theorem pixel_law_of_grid :
    let cells : List Cell := .whole 1 :: List.replicate 2047 (.whole 0)
    let green : Colour := ⟨0, 255, 0⟩
    let black : Colour := ⟨0, 0, 0⟩
    let grey : Colour := ⟨128, 128, 128⟩
    ∃ picture, cells.length = 2048 ∧
      ofCells cells 2 green.parts black.parts (some grey.parts) = .ok picture ∧
      picture.Sized 64 128 ∧ picture.pixel? 0 1 = some grey ∧ picture.pixel? 1 1 = some green ∧
      picture.pixel? 1 3 = some black ∧ green ≠ black ∧ picture.sampled 2 green = cells.map Cell.lit := by
  intro cells green black grey
  have hsize : cells.length = 2048 := congrArg (· + 1) List.length_replicate
  have hne : green ≠ black := by decide
  obtain ⟨picture, hpicture, hsized, hpixel, hsampled⟩ := (pixel_law cells 2 green black (some grey)).2 hsize
  exact ⟨picture, hsize, hpicture, hsized, hpixel 0 1 (by decide) (by decide),
    hpixel 1 1 (by decide) (by decide), hpixel 1 3 (by decide) (by decide), hne, hsampled hne⟩

end Cells

end Chip8.Picture
