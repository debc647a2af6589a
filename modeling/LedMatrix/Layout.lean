/-
# Wiring order

A panel keeps its cells in one flat memory. The layout says which place of the
memory holds the cell in column `x` and row `y` of the physical grid. Both
layouts are one-to-one onto the memory, which is what lets the rest of the
library speak of cells and forget the wiring.

Places are words of 64 bits. `Layout.place?` says which cells have a place that
can be worked out in words, also for cells that are not in the grid; for those
that are, it agrees with `Layout.index`.
-/

namespace LedMatrix

/-- How the cells of a grid follow each other in memory. -/
inductive Layout where
  /-- Every row runs left to right. -/
  | raster
  /-- Even rows run left to right and odd rows right to left, as on a panel
  made of one strip that turns at the end of each row. -/
  | serpentine
  deriving DecidableEq

namespace Layout

/-- The place of cell `(x, y)` in a grid of the given width. It is meant for
cells of the grid, `x < width`. -/
def index (layout : Layout) (width x y : Nat) : Nat :=
  match layout with
  | .raster => y * width + x
  | .serpentine => if y % 2 = 0 then y * width + x else y * width + (width - 1 - x)

/-- Places are below this number. -/
def placeLimit : Nat := 0x10000000000000000

/-- A place, if it is not too far. -/
def inReach? (place : Nat) : Option Nat := if place < placeLimit then some place else none

/-- The mirror image of a cell in a line of `length` cells, if the cell is one of
them. -/
def mirrored? (length cell : Nat) : Option Nat :=
  if cell < length then some (length - 1 - cell) else none

/-- The place of any cell. Beyond the end of a row that runs right to left there
is none, and none beyond the words. -/
def place? (layout : Layout) (width x y : Nat) : Option Nat := do
  let offset ← match layout with
    | .raster => some x
    | .serpentine => if y % 2 = 0 then some x else mirrored? width x
  inReach? (y * width + offset)

/-- The names under which layouts are written. -/
def name : Layout → String
  | .raster => "raster"
  | .serpentine => "serpentine"

/-- All layouts, in the order in which their names are listed. -/
def all : List Layout := [.raster, .serpentine]

/-- A cell of the grid has its place inside the memory of the grid. -/
theorem index_lt (layout : Layout) {width height x y : Nat} (hx : x < width) (hy : y < height) :
    layout.index width x y < width * height := by
  have rows : (y + 1) * width ≤ height * width := Nat.mul_le_mul_right width hy
  rw [Nat.add_one_mul] at rows
  rw [Nat.mul_comm width height]
  cases layout with
  | raster =>
      simp only [index]
      omega
  | serpentine =>
      simp only [index]
      split <;> omega

@[simp] theorem mirrored?_of_lt {length cell : Nat} (inside : cell < length) :
    mirrored? length cell = some (length - 1 - cell) := if_pos inside

/-- A cell of a grid that is within reach has the place that the layout gives it. -/
theorem place?_eq_index (layout : Layout) {width height x y : Nat} (hx : x < width)
    (hy : y < height) (reach : width * height ≤ placeLimit) :
    layout.place? width x y = some (layout.index width x y) := by
  have inside : layout.index width x y < placeLimit :=
    Nat.lt_of_lt_of_le (layout.index_lt hx hy) reach
  cases layout with
  | raster =>
      simp only [index] at inside
      simp [place?, index, inReach?, inside]
  | serpentine =>
      simp only [index] at inside
      by_cases even : y % 2 = 0
      · simp only [even, if_true] at inside
        simp [place?, index, inReach?, even, inside]
      · simp only [even, if_false] at inside
        simp [place?, index, inReach?, even, hx, inside]

end Layout

end LedMatrix
