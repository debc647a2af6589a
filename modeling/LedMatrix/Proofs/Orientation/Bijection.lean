/-
# Cells and places

The way from a logical cell to its place in memory has three parts: a turn,
mirrors of the physical axes, and the wiring. Each part has an inverse, so the
whole way is one-to-one onto the memory. That holds for grids of any shape,
also for a grid with no cell at all.

The second half is about the arithmetic on the way. `Orientation.checkedPlace?`
works the place out operation by operation on words of 64 bits and gives up as
soon as a difference falls below zero or a product or sum does not fit. It
agrees with `Orientation.place?` everywhere, inside the picture and outside of
it, and never gives up for a cell of a picture whose size fits into a word.
-/

import Mathlib.Data.Set.Function
import LedMatrix.Orientation

namespace LedMatrix

namespace Layout

/-- The cell whose colour a place of the memory holds. -/
def cellOf (layout : Layout) (width place : Nat) : Nat × Nat :=
  match layout with
  | .raster => (place % width, place / width)
  | .serpentine =>
      (if place / width % 2 = 0 then place % width else width - 1 - place % width,
        place / width)

/-- A place inside the memory of a grid holds a cell of that grid. -/
theorem cellOf_lt (layout : Layout) {width height place : Nat}
    (inside : place < width * height) :
    (layout.cellOf width place).1 < width ∧ (layout.cellOf width place).2 < height := by
  have nonempty : 0 < width := Nat.pos_of_mul_pos_right (Nat.zero_lt_of_lt inside)
  have column : place % width < width := Nat.mod_lt place nonempty
  have row : place / width < height := Nat.div_lt_of_lt_mul inside
  cases layout with
  | raster => exact ⟨column, row⟩
  | serpentine =>
      refine ⟨?_, row⟩
      simp only [cellOf]
      split <;> omega

theorem cellOf_index (layout : Layout) {width x y : Nat} (hx : x < width) :
    layout.cellOf width (layout.index width x y) = (x, y) := by
  have nonempty : 0 < width := Nat.zero_lt_of_lt hx
  have split_place {offset : Nat} (small : offset < width) :
      (y * width + offset) / width = y ∧ (y * width + offset) % width = offset := by
    rw [Nat.add_comm, Nat.mul_comm]
    exact ⟨by rw [Nat.add_mul_div_left _ _ nonempty, Nat.div_eq_of_lt small, Nat.zero_add],
      by rw [Nat.add_mul_mod_self_left, Nat.mod_eq_of_lt small]⟩
  cases layout with
  | raster => simp [cellOf, index, split_place hx]
  | serpentine =>
      by_cases even : y % 2 = 0
      · simp [cellOf, index, even, split_place hx]
      · have mirrored : width - 1 - x < width := by omega
        have back : width - 1 - (width - 1 - x) = x := by omega
        simp [cellOf, index, even, split_place mirrored, back]

theorem index_cellOf (layout : Layout) {width place : Nat} (nonempty : 0 < width) :
    layout.index width (layout.cellOf width place).1 (layout.cellOf width place).2 = place := by
  have whole : place / width * width + place % width = place := Nat.div_add_mod' place width
  cases layout with
  | raster => exact whole
  | serpentine =>
      by_cases even : place / width % 2 = 0
      · simp [cellOf, index, even, whole]
      · have column : place % width < width := Nat.mod_lt place nonempty
        have back : width - 1 - (width - 1 - place % width) = place % width := by omega
        simp [cellOf, index, even, back, whole]

end Layout

namespace Flip

theorem column_lt (flip : Flip) {width x : Nat} (inside : x < width) :
    flip.column width x < width := by
  unfold column
  split <;> omega

theorem row_lt (flip : Flip) {height y : Nat} (inside : y < height) :
    flip.row height y < height := by
  unfold row
  split <;> omega

theorem column_column (flip : Flip) {width x : Nat} (inside : x < width) :
    flip.column width (flip.column width x) = x := by
  unfold column
  split <;> omega

theorem row_row (flip : Flip) {height y : Nat} (inside : y < height) :
    flip.row height (flip.row height y) = y := by
  unfold row
  split <;> omega

end Flip

namespace Orientation

/-- The logical cell that a physical cell shows. The mirrors are undone first and
the turn after them. -/
def logical (o : Orientation) (ux uy : Nat) : Nat × Nat :=
  let (tx, ty) := (o.flip.column o.physicalWidth ux, o.flip.row o.physicalHeight uy)
  match o.rotation with
  | .upright => (tx, ty)
  | .quarter => (o.physicalHeight - 1 - ty, tx)
  | .half => (o.physicalWidth - 1 - tx, o.physicalHeight - 1 - ty)
  | .threeQuarter => (ty, o.physicalWidth - 1 - tx)

/-- A cell of the physical grid shows a cell of the picture. -/
theorem logical_lt (o : Orientation) {ux uy : Nat} (hx : ux < o.physicalWidth)
    (hy : uy < o.physicalHeight) :
    (o.logical ux uy).1 < o.width ∧ (o.logical ux uy).2 < o.height := by
  have tx := o.flip.column_lt hx
  have ty := o.flip.row_lt hy
  unfold logical width height
  cases o.rotation <;>
    simp only [Rotation.isTransposed, if_true, Bool.false_eq_true, if_false] <;> omega

theorem logical_physical (o : Orientation) {x y : Nat} (hx : x < o.width) (hy : y < o.height) :
    o.logical (o.physical x y).1 (o.physical x y).2 = (x, y) := by
  unfold width at hx
  unfold height at hy
  unfold logical physical
  cases turn : o.rotation <;>
    simp only [turn, Rotation.isTransposed, if_true, Bool.false_eq_true, if_false] at hx hy ⊢
  case upright => rw [o.flip.column_column hx, o.flip.row_row hy]
  case quarter =>
    rw [o.flip.column_column hy, o.flip.row_row (by omega)]
    exact Prod.ext (by dsimp only; omega) rfl
  case half =>
    rw [o.flip.column_column (by omega), o.flip.row_row (by omega)]
    exact Prod.ext (by dsimp only; omega) (by dsimp only; omega)
  case threeQuarter =>
    rw [o.flip.column_column (by omega), o.flip.row_row hx]
    exact Prod.ext rfl (by dsimp only; omega)

theorem physical_logical (o : Orientation) {ux uy : Nat} (hx : ux < o.physicalWidth)
    (hy : uy < o.physicalHeight) :
    o.physical (o.logical ux uy).1 (o.logical ux uy).2 = (ux, uy) := by
  have tx := o.flip.column_lt hx
  have ty := o.flip.row_lt hy
  have column_back : o.physicalWidth - 1 - (o.physicalWidth - 1 - o.flip.column o.physicalWidth ux)
      = o.flip.column o.physicalWidth ux := by omega
  have row_back : o.physicalHeight - 1 - (o.physicalHeight - 1 - o.flip.row o.physicalHeight uy)
      = o.flip.row o.physicalHeight uy := by omega
  unfold physical logical
  cases o.rotation <;>
    simp only [column_back, row_back, o.flip.column_column hx, o.flip.row_row hy]

/-- Different logical cells are shown by different physical ones. -/
theorem physical_inj (o : Orientation) {x y x' y' : Nat} (hx : x < o.width) (hy : y < o.height)
    (hx' : x' < o.width) (hy' : y' < o.height) :
    o.physical x y = o.physical x' y' ↔ (x, y) = (x', y') := by
  constructor
  · intro same
    rw [← o.logical_physical hx hy, same, o.logical_physical hx' hy']
  · intro same
    obtain ⟨rfl, rfl⟩ := Prod.mk.inj same
    rfl

/-- The logical cell whose colour a place of the memory holds. -/
def cellOf (o : Orientation) (place : Nat) : Nat × Nat :=
  let (ux, uy) := o.layout.cellOf o.physicalWidth place
  o.logical ux uy

/-- A place of the memory holds a cell of the picture. -/
theorem cellOf_lt (o : Orientation) {place : Nat} (inside : place < o.area) :
    (o.cellOf place).1 < o.width ∧ (o.cellOf place).2 < o.height :=
  have physical := o.layout.cellOf_lt inside
  o.logical_lt physical.1 physical.2

theorem cellOf_index (o : Orientation) {x y : Nat} (hx : x < o.width) (hy : y < o.height) :
    o.cellOf (o.index x y) = (x, y) := by
  have physical := o.physical_lt hx hy
  unfold cellOf index
  simp only [o.layout.cellOf_index physical.1]
  exact o.logical_physical hx hy

theorem index_cellOf (o : Orientation) {place : Nat} (inside : place < o.area) :
    o.index (o.cellOf place).1 (o.cellOf place).2 = place := by
  have physical := o.layout.cellOf_lt inside
  unfold cellOf index
  simp only [o.physical_logical physical.1 physical.2]
  exact o.layout.index_cellOf (Nat.zero_lt_of_lt physical.1)

/-- A physical cell lies at the place of a logical one exactly if it shows it. -/
theorem place_eq_index_iff (o : Orientation) {x y ux : Nat} (uy : Nat) (hx : x < o.width)
    (hy : y < o.height) (inside : ux < o.physicalWidth) :
    o.layout.index o.physicalWidth ux uy = o.index x y ↔ (ux, uy) = o.physical x y := by
  have physical := o.physical_lt hx hy
  constructor
  · intro same
    have cells := congrArg (o.layout.cellOf o.physicalWidth) same
    rwa [index, o.layout.cellOf_index physical.1, o.layout.cellOf_index inside] at cells
  · intro here
    rw [index, ← here]

end Orientation

/-! ## Arithmetic on words

The sums above are sums of natural numbers. A machine computes them in words,
and every single operation can leave the words: a difference below zero, a
product or a sum that is too large. The definitions below stop at the first
operation that does. -/

namespace Layout

/-- A difference of two words, if it is not negative. -/
def difference? (first second : Nat) : Option Nat :=
  if second ≤ first then some (first - second) else none

/-- A product of two words, if it is one. -/
def product? (first second : Nat) : Option Nat := inReach? (first * second)

/-- A sum of two words, if it is one. -/
def sum? (first second : Nat) : Option Nat := inReach? (first + second)

/-- The mirror image of a cell, `length - cell - 1` from the left to the right. -/
def checkedMirror? (length cell : Nat) : Option Nat :=
  (difference? length cell).bind (difference? · 1)

/-- The same distance counted from the last cell, `length - 1 - cell` from the left
to the right. -/
def checkedFromLast? (length cell : Nat) : Option Nat :=
  (difference? length 1).bind (difference? · cell)

/-- The place of a cell, operation by operation. -/
def checkedPlace? (layout : Layout) (width x y : Nat) : Option Nat :=
  (product? y width).bind fun start =>
    match layout with
    | .raster => sum? start x
    | .serpentine =>
        if y % 2 = 0 then sum? start x
        else (checkedFromLast? width x).bind (sum? start ·)

/-- Both steps towards a mirror image are possible exactly for the cells of the
line. -/
theorem checkedMirror?_eq_mirrored? (length cell : Nat) :
    checkedMirror? length cell = mirrored? length cell := by
  unfold checkedMirror? difference? mirrored?
  by_cases inside : cell < length
  · have step : 1 ≤ length - cell := by omega
    have swapped : length - cell - 1 = length - 1 - cell := by omega
    simp [inside, Nat.le_of_lt inside, step, swapped]
  · by_cases boundary : cell = length
    · simp [boundary]
    · have beyond : ¬ cell ≤ length := by omega
      simp [inside, beyond]

theorem checkedFromLast?_eq_mirrored? (length cell : Nat) :
    checkedFromLast? length cell = mirrored? length cell := by
  unfold checkedFromLast? difference? mirrored?
  by_cases nonempty : 1 ≤ length
  · have bound : cell ≤ length - 1 ↔ cell < length := by omega
    simp [nonempty, bound]
  · have outside : ¬ cell < length := by omega
    simp [nonempty, outside]

/-- A sum that fits has a first part that fits, so nothing is lost by asking only
at the end. -/
theorem sum?_product? (row width offset : Nat) :
    ((product? row width).bind fun start => sum? start offset) =
      inReach? (row * width + offset) := by
  unfold product? sum? inReach?
  by_cases fits : row * width < placeLimit
  · simp [fits]
  · have sum_large : ¬ row * width + offset < placeLimit := by omega
    simp [fits, sum_large]

/-- Asking at every operation and asking at the end come to the same. -/
theorem checkedPlace?_eq_place? (layout : Layout) (width x y : Nat) :
    layout.checkedPlace? width x y = layout.place? width x y := by
  unfold checkedPlace? place?
  cases layout with
  | raster => exact sum?_product? y width x
  | serpentine =>
      by_cases even : y % 2 = 0
      · simpa [even] using sum?_product? y width x
      · simp only [even, if_false, checkedFromLast?_eq_mirrored?]
        cases mirrored? width x with
        | none => cases product? y width <;> rfl
        | some offset => exact sum?_product? y width offset

end Layout

namespace Flip

/-- The mirror image of a column, operation by operation. -/
def checkedColumn? (flip : Flip) (width x : Nat) : Option Nat :=
  if flip.x then Layout.checkedMirror? width x else some x

/-- The mirror image of a row, operation by operation. -/
def checkedRow? (flip : Flip) (height y : Nat) : Option Nat :=
  if flip.y then Layout.checkedMirror? height y else some y

end Flip

namespace Orientation

/-- Where the turn takes a logical cell, operation by operation. -/
def checkedTurn? (o : Orientation) (x y : Nat) : Option (Nat × Nat) :=
  let (w, h) := (o.physicalWidth, o.physicalHeight)
  match o.rotation with
  | .upright => some (x, y)
  | .quarter => do return (y, ← Layout.checkedMirror? h x)
  | .half => do return (← Layout.checkedMirror? w x, ← Layout.checkedMirror? h y)
  | .threeQuarter => do return (← Layout.checkedMirror? w y, x)

/-- The physical cell of a logical one, operation by operation. -/
def checkedPhysical? (o : Orientation) (x y : Nat) : Option (Nat × Nat) := do
  let (ux, uy) ← o.checkedTurn? x y
  return (← o.flip.checkedColumn? o.physicalWidth ux, ← o.flip.checkedRow? o.physicalHeight uy)

/-- The place of a logical cell, operation by operation. -/
def checkedPlace? (o : Orientation) (x y : Nat) : Option Nat := do
  let (ux, uy) ← o.checkedPhysical? x y
  o.layout.checkedPlace? o.physicalWidth ux uy

theorem checkedPhysical?_eq_position? (o : Orientation) (x y : Nat) :
    o.checkedPhysical? x y = o.position? x y := by
  have turn : o.checkedTurn? x y = o.turned? x y := by
    unfold checkedTurn? turned?
    cases o.rotation <;> simp only [Layout.checkedMirror?_eq_mirrored?]
  unfold checkedPhysical? position?
  simp only [turn, Flip.checkedColumn?, Flip.checkedRow?, Flip.column?, Flip.row?,
    Layout.checkedMirror?_eq_mirrored?]

theorem checkedPlace?_eq_place? (o : Orientation) (x y : Nat) :
    o.checkedPlace? x y = o.place? x y := by
  unfold checkedPlace? place?
  simp only [checkedPhysical?_eq_position?, Layout.checkedPlace?_eq_place?]

/-- **The way from a cell to its place is a bijection with safe arithmetic.**
Whatever the wiring, the turn, the mirrors and the shape of the grid, as long as
the size of the grid is a word: no operation on the way of a cell of the picture
leaves the words, the cell reaches a cell of the physical grid, and the cells of
the picture correspond one-to-one to the places of the memory. -/
theorem index_bijOn (o : Orientation)
    (representable : o.physicalWidth * o.physicalHeight < Layout.placeLimit) :
    (∀ x y, x < o.width → y < o.height →
      o.checkedPhysical? x y = some (o.physical x y) ∧
      o.checkedPlace? x y = some (o.index x y) ∧
      (o.physical x y).1 < o.physicalWidth ∧ (o.physical x y).2 < o.physicalHeight) ∧
    Set.BijOn (fun cell : Nat × Nat => o.index cell.1 cell.2)
      {cell | cell.1 < o.width ∧ cell.2 < o.height}
      {place | place < o.physicalWidth * o.physicalHeight} := by
  refine ⟨fun x y hx hy => ⟨?_, ?_, o.physical_lt hx hy⟩, ?_⟩
  · rw [o.checkedPhysical?_eq_position?, o.position?_eq_physical hx hy]
  · rw [o.checkedPlace?_eq_place?, o.place?_eq_index hx hy (Nat.le_of_lt representable)]
  · have inverse : Set.InvOn o.cellOf (fun cell : Nat × Nat => o.index cell.1 cell.2)
        {cell | cell.1 < o.width ∧ cell.2 < o.height}
        {place | place < o.physicalWidth * o.physicalHeight} := by
      constructor
      · rintro ⟨x, y⟩ ⟨hx, hy⟩
        exact o.cellOf_index hx hy
      · intro place inside
        exact o.index_cellOf inside
    apply inverse.bijOn
    · rintro ⟨x, y⟩ ⟨hx, hy⟩
      exact o.index_lt hx hy
    · intro place inside
      exact o.cellOf_lt inside

/-- A snaking panel of five columns and three rows, turned by a quarter and
mirrored along the columns. -/
theorem index_bijOn_five_by_three :
    let o : Orientation := ⟨.serpentine, 5, 3, .quarter, { x := true }⟩
    5 * 3 < Layout.placeLimit ∧
    o.checkedPlace? 2 1 = some 3 ∧ o.index 2 1 = 3 ∧
    Set.BijOn (fun cell : Nat × Nat => o.index cell.1 cell.2)
      {cell | cell.1 < 3 ∧ cell.2 < 5} {place | place < 5 * 3} :=
  have representable : 5 * 3 < Layout.placeLimit := by decide
  have law := index_bijOn ⟨.serpentine, 5, 3, .quarter, { x := true }⟩ representable
  ⟨representable, (law.1 2 1 (by decide) (by decide)).2.1, rfl, law.2⟩

end Orientation

end LedMatrix
