/-
# Orientation of a picture

Callers address a picture by logical column and row. An orientation turns such
a cell into a cell of the fixed physical grid, first by a quarter turn and then
by mirrors of the physical axes, and the layout turns that into a place in
memory. Turning a picture changes the orientation only: the memory stays where
it is and is read differently.

The main statements are `Orientation.index_lt`, that a logical cell has its
place inside the memory, whatever the turn, the mirrors and the layout, and
`Orientation.place?_eq_index`, that the place of any cell, which may not exist,
is this place for a cell of the picture.
-/

import LedMatrix.CanvasError
import LedMatrix.Layout

namespace LedMatrix

/-- None of the bits without a meaning. -/
def Flip.noRest : Fin 64 := ⟨0, Nat.zero_lt_succ 63⟩

/-- Which axes are mirrored. A set of mirrors is exchanged as eight bits, of
which the lowest two have a meaning; the other six are kept as they came, so
that a set is written back as it was read. -/
structure Flip where
  /-- The columns are reversed. -/
  x : Bool := false
  /-- The rows are reversed. -/
  y : Bool := false
  /-- The six bits without a meaning. -/
  rest : Fin 64 := Flip.noRest
  deriving DecidableEq

namespace Flip

/-- No mirror at all. -/
def none : Flip := {}

/-- The set with the given bits; only the low eight count. -/
def ofBits (bits : Nat) : Flip where
  x := bits.testBit 0
  y := bits.testBit 1
  rest := Fin.ofNat 64 (bits / 4)

/-- The bits of a set. -/
def bits (flip : Flip) : Nat :=
  flip.x.toNat + 2 * flip.y.toNat + 4 * flip.rest.val

/-- The union of two sets, bit by bit. -/
def union (first second : Flip) : Flip := ofBits (first.bits ||| second.bits)

/-- The mirror image of column `x` in a row of `width` cells. -/
def column (flip : Flip) (width x : Nat) : Nat := if flip.x then width - 1 - x else x

/-- The mirror image of row `y` in a column of `height` cells. -/
def row (flip : Flip) (height y : Nat) : Nat := if flip.y then height - 1 - y else y

/-- The mirror image of any column, if it has one. -/
def column? (flip : Flip) (width x : Nat) : Option Nat :=
  if flip.x then Layout.mirrored? width x else some x

/-- The mirror image of any row, if it has one. -/
def row? (flip : Flip) (height y : Nat) : Option Nat :=
  if flip.y then Layout.mirrored? height y else some y

theorem column?_of_lt (flip : Flip) {width x : Nat} (inside : x < width) :
    flip.column? width x = some (flip.column width x) := by
  cases mirror : flip.x <;> simp [column?, column, mirror, inside]

theorem row?_of_lt (flip : Flip) {height y : Nat} (inside : y < height) :
    flip.row? height y = some (flip.row height y) := by
  cases mirror : flip.y <;> simp [row?, row, mirror, inside]

end Flip

/-- A turn of the picture by a multiple of a quarter. -/
inductive Rotation where
  | upright
  | quarter
  | half
  | threeQuarter
  deriving DecidableEq

namespace Rotation

/-- The turn in degrees. -/
def degrees : Rotation → Int
  | upright => 0
  | quarter => 90
  | half => 180
  | threeQuarter => 270

/-- The turn of the given number of degrees, if there is one. -/
def ofDegrees (degree : Int) : Except CanvasError Rotation :=
  if degree = 0 then .ok upright
  else if degree = 90 then .ok quarter
  else if degree = 180 then .ok half
  else if degree = 270 then .ok threeQuarter
  else .error (.invalidRotation degree)

/-- The turn that undoes this one. -/
def inverse : Rotation → Rotation
  | upright => upright
  | quarter => threeQuarter
  | half => half
  | threeQuarter => quarter

/-- Whether the turn exchanges width and height. -/
def isTransposed : Rotation → Bool
  | upright | half => false
  | quarter | threeQuarter => true

@[simp] theorem ofDegrees_degrees (turn : Rotation) : ofDegrees turn.degrees = .ok turn := by
  cases turn <;> rfl

end Rotation

/-- How logical cells of a picture reach its memory. -/
structure Orientation where
  layout : Layout
  /-- The width of the physical grid. -/
  physicalWidth : Nat
  /-- The height of the physical grid. -/
  physicalHeight : Nat
  rotation : Rotation := .upright
  flip : Flip := Flip.none
  deriving DecidableEq

namespace Orientation

/-- The logical width. -/
def width (o : Orientation) : Nat :=
  if o.rotation.isTransposed then o.physicalHeight else o.physicalWidth

/-- The logical height. -/
def height (o : Orientation) : Nat :=
  if o.rotation.isTransposed then o.physicalWidth else o.physicalHeight

/-- The number of cells. -/
def area (o : Orientation) : Nat := o.physicalWidth * o.physicalHeight

/-- The same grid with another turn and other mirrors. -/
def withRotation (o : Orientation) (rotation : Rotation) (flip : Flip) : Orientation :=
  { o with rotation, flip }

/-- Take another turn and other mirrors. A degree that is no quarter turn is
refused and leaves nothing to keep. -/
def setRotation (o : Orientation) (degree : Int) (flip : Flip) :
    Except CanvasError Orientation := do
  let rotation ← Rotation.ofDegrees degree
  return o.withRotation rotation flip

/-- The physical cell that shows logical `(x, y)`: the turn comes first, then
the mirrors of the physical axes. It is meant for cells of the picture. -/
def physical (o : Orientation) (x y : Nat) : Nat × Nat :=
  let (w, h) := (o.physicalWidth, o.physicalHeight)
  let (ux, uy) := match o.rotation with
    | .upright => (x, y)
    | .quarter => (y, h - 1 - x)
    | .half => (w - 1 - x, h - 1 - y)
    | .threeQuarter => (w - 1 - y, x)
  (o.flip.column w ux, o.flip.row h uy)

/-- The place in memory of logical `(x, y)`. -/
def index (o : Orientation) (x y : Nat) : Nat :=
  let (ux, uy) := o.physical x y
  o.layout.index o.physicalWidth ux uy

/-- Where the turn takes any `(x, y)`, inside the picture or not. Beyond the end of
a line that is reversed there is nothing. -/
def turned? (o : Orientation) (x y : Nat) : Option (Nat × Nat) :=
  match o.rotation with
  | .upright => some (x, y)
  | .quarter => do return (y, ← Layout.mirrored? o.physicalHeight x)
  | .half => do
      return (← Layout.mirrored? o.physicalWidth x, ← Layout.mirrored? o.physicalHeight y)
  | .threeQuarter => do return (← Layout.mirrored? o.physicalWidth y, x)

/-- The physical cell of any `(x, y)`, if there is one. -/
def position? (o : Orientation) (x y : Nat) : Option (Nat × Nat) := do
  let (ux, uy) ← o.turned? x y
  return (← o.flip.column? o.physicalWidth ux, ← o.flip.row? o.physicalHeight uy)

/-- The place in memory of any `(x, y)`, if there is one. -/
def place? (o : Orientation) (x y : Nat) : Option Nat := do
  let (ux, uy) ← o.position? x y
  o.layout.place? o.physicalWidth ux uy

/-- A logical cell is shown by a cell of the physical grid. -/
theorem physical_lt (o : Orientation) {x y : Nat} (hx : x < o.width) (hy : y < o.height) :
    (o.physical x y).1 < o.physicalWidth ∧ (o.physical x y).2 < o.physicalHeight := by
  unfold width at hx
  unfold height at hy
  unfold physical Flip.column Flip.row
  cases turn : o.rotation <;>
    simp only [turn, Rotation.isTransposed, if_true, Bool.false_eq_true, if_false] at hx hy ⊢ <;>
    constructor <;> split <;> omega

/-- A logical cell has its place inside the memory. -/
theorem index_lt (o : Orientation) {x y : Nat} (hx : x < o.width) (hy : y < o.height) :
    o.index x y < o.area := by
  have inside := o.physical_lt hx hy
  exact o.layout.index_lt inside.1 inside.2

/-- A logical cell has a physical cell. -/
theorem position?_eq_physical (o : Orientation) {x y : Nat} (hx : x < o.width)
    (hy : y < o.height) : o.position? x y = some (o.physical x y) := by
  unfold width at hx
  unfold height at hy
  unfold position? turned? physical
  cases turn : o.rotation <;>
    simp only [turn, Rotation.isTransposed, if_true, Bool.false_eq_true, if_false] at hx hy
  case upright => simp [o.flip.column?_of_lt hx, o.flip.row?_of_lt hy]
  case quarter =>
    have uy : o.physicalHeight - 1 - x < o.physicalHeight := by omega
    simp [hx, o.flip.column?_of_lt hy, o.flip.row?_of_lt uy]
  case half =>
    have ux : o.physicalWidth - 1 - x < o.physicalWidth := by omega
    have uy : o.physicalHeight - 1 - y < o.physicalHeight := by omega
    simp [hx, hy, o.flip.column?_of_lt ux, o.flip.row?_of_lt uy]
  case threeQuarter =>
    have ux : o.physicalWidth - 1 - y < o.physicalWidth := by omega
    simp [hy, o.flip.column?_of_lt ux, o.flip.row?_of_lt hx]

/-- A logical cell of a picture within reach has the place that the orientation
gives it. -/
theorem place?_eq_index (o : Orientation) {x y : Nat} (hx : x < o.width) (hy : y < o.height)
    (reach : o.area ≤ Layout.placeLimit) : o.place? x y = some (o.index x y) := by
  have inside := o.physical_lt hx hy
  rw [place?, o.position?_eq_physical hx hy]
  exact o.layout.place?_eq_index inside.1 inside.2 reach

/-- Turning keeps the physical grid. -/
@[simp] theorem area_withRotation (o : Orientation) (rotation : Rotation) (flip : Flip) :
    (o.withRotation rotation flip).area = o.area := rfl

end Orientation

end LedMatrix
