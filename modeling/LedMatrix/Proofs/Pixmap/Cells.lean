/-
# What a picture shows

A picture can be looked at in two ways. `Pixmap.colorAt` is the colour of a
logical cell, as callers see it; `Pixmap.shown` is the colour of a cell of the
physical grid, as the panel shows it. Turning the picture changes the first and
not the second.

Every change of a picture is described here by what it does to the cells, so
that places of the memory need not be mentioned again. All of it rests on
different cells having different places.
-/

import LedMatrix.Pixmap.Paint
import LedMatrix.Proofs.Edit
import LedMatrix.Proofs.Orientation.Bijection

namespace LedMatrix

theorem cellAt_of_lt {width height x y : Nat} (hx : x < width) (hy : y < height) :
    cellAt x y width height = .ok (x, y) := by
  simp [cellAt, hx, hy]

/-- A position is a cell exactly if it lies inside on both axes. -/
theorem cellAt_eq_ok {x y : Int} {width height column row : Nat} :
    cellAt x y width height = .ok (column, row) ↔
      x = column ∧ y = row ∧ column < width ∧ row < height := by
  unfold cellAt
  split
  · simp only [Except.ok.injEq, Prod.mk.injEq]
    omega
  · simp only [reduceCtorEq, false_iff]
    omega

namespace Pixmap

/-- The colour that the panel shows in a cell of the physical grid. -/
def shown (p : Pixmap) (ux uy : Nat) : Color :=
  p.memory.getD (p.orientation.layout.index p.orientation.physicalWidth ux uy) .black

/-- A logical cell has the colour that the panel shows where the cell is. -/
theorem colorAt_eq_shown (p : Pixmap) (x y : Nat) :
    p.colorAt x y = p.shown (p.orientation.physical x y).1 (p.orientation.physical x y).2 := rfl

theorem pixel_of_lt (p : Pixmap) {x y : Nat} (hx : x < p.width) (hy : y < p.height) :
    p.pixel x y = .ok (p.colorAt x y) := by
  rw [pixel, cellAt_of_lt hx hy]
  rfl

/-- Two pictures of one size that agree on their cells are read alike, also
where there is nothing to read. -/
theorem pixel_congr {p q : Pixmap} (width : q.width = p.width) (height : q.height = p.height)
    (colors : ∀ x y, x < p.width → y < p.height → q.colorAt x y = p.colorAt x y) (x y : Int) :
    q.pixel x y = p.pixel x y := by
  rw [pixel, pixel, width, height]
  cases found : cellAt x y p.width p.height with
  | error cause => rfl
  | ok cell =>
      obtain ⟨column, row⟩ := cell
      obtain ⟨-, -, hx, hy⟩ := cellAt_eq_ok.mp found
      exact congrArg Except.ok (colors column row hx hy)

/-- The colours of two places are exchanged and nothing else changes. -/
private theorem getD_swapIfInBounds (memory : Array Color) {i j : Nat} (hi : i < memory.size)
    (hj : j < memory.size) (k : Nat) :
    (memory.swapIfInBounds i j).getD k .black =
      if k = i then memory.getD j .black
      else if k = j then memory.getD i .black else memory.getD k .black := by
  rw [Array.swapIfInBounds_def, dif_pos hi, dif_pos hj]
  simp only [Array.getD_eq_getD_getElem?, Array.getElem?_swap]
  by_cases atSecond : j = k
  · subst atSecond
    by_cases same : j = i
    · simp [same, Array.getElem?_eq_getElem hi]
    · simp [same, hi]
  · by_cases atFirst : i = k
    · simp [atFirst, atSecond, hj]
    · simp [atFirst, atSecond, Ne.symm atFirst, Ne.symm atSecond]

section Recolor

variable (p : Pixmap) {x y : Nat} (hx : x < p.width) (hy : y < p.height) (color : Color)
include hx hy

/-- Recolouring a cell changes what the panel shows there, and nothing else. -/
theorem shown_recolor {ux : Nat} (uy : Nat) (inside : ux < p.orientation.physicalWidth) :
    (p.recolor x y color).shown ux uy =
      if (ux, uy) = p.orientation.physical x y then color else p.shown ux uy := by
  have place : p.orientation.index x y < p.memory.size := by
    rw [p.size_memory]
    exact p.orientation.index_lt hx hy
  have here := p.orientation.place_eq_index_iff uy hx hy inside
  simp only [shown, recolor, Array.getD_eq_getD_getElem?, Array.getElem?_setIfInBounds]
  by_cases same : (ux, uy) = p.orientation.physical x y
  · rw [if_pos same, if_pos (here.mpr same).symm, if_pos place, Option.getD_some]
  · rw [if_neg same, if_neg fun place => same (here.mp place.symm)]

/-- Recolouring a cell changes that cell and no other. -/
theorem colorAt_recolor {x' y' : Nat} (hx' : x' < p.width) (hy' : y' < p.height) :
    (p.recolor x y color).colorAt x' y' =
      if x' = x ∧ y' = y then color else p.colorAt x' y' := by
  have physical := p.orientation.physical_lt hx' hy'
  have law := p.shown_recolor hx hy color (p.orientation.physical x' y').2 physical.1
  rw [colorAt_eq_shown, colorAt_eq_shown]
  refine law.trans (if_congr ?_ rfl rfl)
  exact (p.orientation.physical_inj hx' hy' hx hy).trans Prod.mk_inj

end Recolor

/-- Exchanging two cells exchanges what the panel shows there, and nothing else. -/
theorem shown_exchange (p : Pixmap) {first second : Nat × Nat}
    (hx : first.1 < p.width) (hy : first.2 < p.height)
    (hx' : second.1 < p.width) (hy' : second.2 < p.height) {ux uy : Nat}
    (inside : ux < p.orientation.physicalWidth) :
    (p.exchange first second).shown ux uy =
      if (ux, uy) = p.orientation.physical first.1 first.2 then p.colorAt second.1 second.2
      else if (ux, uy) = p.orientation.physical second.1 second.2 then
        p.colorAt first.1 first.2
      else p.shown ux uy := by
  have bound : p.orientation.index first.1 first.2 < p.memory.size := by
    rw [p.size_memory]
    exact p.orientation.index_lt hx hy
  have bound' : p.orientation.index second.1 second.2 < p.memory.size := by
    rw [p.size_memory]
    exact p.orientation.index_lt hx' hy'
  refine (getD_swapIfInBounds p.memory bound bound' _).trans ?_
  exact if_congr (p.orientation.place_eq_index_iff _ hx hy inside) rfl
    (if_congr (p.orientation.place_eq_index_iff _ hx' hy' inside) rfl rfl)

/-- Exchanging two cells exchanges their colours, and nothing else. -/
theorem colorAt_exchange (p : Pixmap) {first second cell : Nat × Nat}
    (hx : first.1 < p.width) (hy : first.2 < p.height)
    (hx' : second.1 < p.width) (hy' : second.2 < p.height)
    (hx'' : cell.1 < p.width) (hy'' : cell.2 < p.height) :
    (p.exchange first second).colorAt cell.1 cell.2 =
      if cell = first then p.colorAt second.1 second.2
      else if cell = second then p.colorAt first.1 first.2
      else p.colorAt cell.1 cell.2 := by
  have physical := p.orientation.physical_lt hx'' hy''
  rw [colorAt_eq_shown]
  refine (p.shown_exchange hx hy hx' hy' physical.1).trans (if_congr ?_ rfl (if_congr ?_ rfl rfl))
  · exact p.orientation.physical_inj hx'' hy'' hx hy
  · exact p.orientation.physical_inj hx'' hy'' hx' hy'

/-- Filling gives every cell of the panel the same colour. -/
theorem shown_fill (p : Pixmap) (color : Color) {ux uy : Nat}
    (hx : ux < p.orientation.physicalWidth) (hy : uy < p.orientation.physicalHeight) :
    (p.fill color).shown ux uy = color := by
  have place : p.orientation.layout.index p.orientation.physicalWidth ux uy < p.orientation.area :=
    p.orientation.layout.index_lt hx hy
  simp only [shown, fill, Array.getD_eq_getD_getElem?, Array.getElem?_replicate]
  rw [if_pos place, Option.getD_some]

/-- A request to turn is refused exactly if there is no such turn, and otherwise
changes the orientation alone. -/
theorem setRotation_eq (degree : Int) (flip : Flip) (p : Pixmap) :
    setRotation degree flip p =
      match Rotation.ofDegrees degree with
      | .ok rotation => .ok () (p.withRotation rotation flip)
      | .error cause => .error cause p := by
  unfold setRotation
  cases Rotation.ofDegrees degree <;> rfl

/-- Every turn can be taken. -/
theorem setRotation_degrees (rotation : Rotation) (flip : Flip) (p : Pixmap) :
    setRotation rotation.degrees flip p = .ok () (p.withRotation rotation flip) := by
  rw [setRotation_eq, Rotation.ofDegrees_degrees]

/-! ## What determines a picture -/

/-- A place of the memory holds the colour of the cell that it belongs to. -/
theorem getElem_memory (p : Pixmap) {place : Nat} (inside : place < p.memory.size) :
    p.memory[place] = p.colorAt (p.orientation.cellOf place).1 (p.orientation.cellOf place).2 := by
  have placed : place < p.orientation.area := by rwa [← p.size_memory]
  rw [colorAt, p.orientation.index_cellOf placed, Array.getD_eq_getD_getElem?,
    Array.getElem?_eq_getElem inside, Option.getD_some]

/-- Pictures that lie alike in memory and agree on their cells have one memory. -/
theorem memory_eq_of_colorAt {p q : Pixmap} (orientation : q.orientation = p.orientation)
    (colors : ∀ x y, x < p.width → y < p.height → q.colorAt x y = p.colorAt x y) :
    q.memory = p.memory := by
  refine Array.ext ?_ fun place inside inside' => ?_
  · rw [q.size_memory, p.size_memory, orientation]
  · have placed : place < p.orientation.area := by rwa [← p.size_memory]
    have cell := p.orientation.cellOf_lt placed
    rw [q.getElem_memory inside, p.getElem_memory inside', orientation]
    exact colors _ _ cell.1 cell.2

/-- Pictures that differ at most in how they are turned and whose panels show the same have
one memory. -/
theorem memory_eq_of_shown {p q : Pixmap} {rotation : Rotation} {flip : Flip}
    (grid : q.orientation = p.orientation.withRotation rotation flip)
    (shown : ∀ ux uy, ux < p.orientation.physicalWidth → uy < p.orientation.physicalHeight →
      q.shown ux uy = p.shown ux uy) : q.memory = p.memory := by
  have upright : (q.withRotation .upright Flip.none).orientation =
      (p.withRotation .upright Flip.none).orientation :=
    congrArg (fun o => o.withRotation .upright Flip.none) grid
  exact memory_eq_of_colorAt (p := p.withRotation .upright Flip.none)
    (q := q.withRotation .upright Flip.none) upright shown

end Pixmap

end LedMatrix
