/-
# Readable pictures

A source is anything with a size whose cells can be read: a glyph, a stored
picture, a window with everything stacked on it. Reading may fail, and a source
may even claim a size that its cells do not fill, so a read is a partial
function of the coordinates and nothing is assumed about it.

Cells are listed in row-major order. `landing` lists the positions of a source
that fall onto a canvas when the source is laid over it, and `mem_landing` says
that it lists exactly those.
-/

import LedMatrix.CanvasError
import LedMatrix.Color

namespace LedMatrix

/-- A picture that can be read cell by cell. -/
structure Source where
  /-- The logical width. -/
  width : Nat
  /-- The logical height. -/
  height : Nat
  /-- The colour that the source declares as its background. -/
  background : Color := .black
  /-- The colour of a cell. -/
  pixel : Int → Int → Except CanvasError Color

/-- The cell at `(x, y)` of a canvas, or the report that there is none. -/
def cellAt (x y : Int) (width height : Nat) : Except CanvasError (Nat × Nat) :=
  if 0 ≤ x ∧ x < width ∧ 0 ≤ y ∧ y < height then .ok (x.toNat, y.toNat)
  else .error (.outOfRange x y width height)

/-- All cells of a canvas in row-major order. -/
def cells (width height : Nat) : List (Nat × Nat) :=
  (List.range (width * height)).map fun place => (place % width, place / width)

/-- Coordinates are handed on as signed 32-bit numbers. A position too large for
them reaches the source modulo `2 ^ 32`. -/
def coordinate (position : Int) : Int := Int.bmod position 0x100000000

/-- The part of a claimed length that can be covered. Lengths are compared as
signed 64-bit numbers, so a longer claim covers nothing. -/
def covered (length : Nat) : Nat := if length < 0x8000000000000000 then length else 0

/-- Where position `s` of a source of the given length lies along one axis,
counted from the corner at which the source is laid. -/
def offset (length : Nat) (mirrored : Bool) (s : Nat) : Nat :=
  if mirrored then length - 1 - s else s

/-- The positions of a source of the given length, in ascending order, that fall
onto an axis of `extent` cells when the source is laid at `corner`. -/
def landing (length extent : Nat) (corner : Int) (mirrored : Bool) : List Nat :=
  let first := (-corner).toNat
  let last := min length (extent - corner).toNat
  List.range' (if mirrored then length - last else first) (last - first)

theorem mem_landing {length extent : Nat} {corner : Int} {mirrored : Bool} {s : Nat} :
    s ∈ landing length extent corner mirrored ↔
      s < length ∧ 0 ≤ corner + offset length mirrored s ∧
        corner + offset length mirrored s < extent := by
  cases mirrored <;> simp [landing, offset] <;> omega

namespace Source

/-- The rows of a source from the top, each from the left. The first read that
fails, in this order, fails the whole. -/
def rows (source : Source) : Except CanvasError (List (List Color)) :=
  (List.range source.height).mapM fun (y : Nat) =>
    (List.range source.width).mapM fun (x : Nat) => source.pixel x y

end Source

end LedMatrix
