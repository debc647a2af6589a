/-
# Painting

Laying a source over a picture paints the source cells that land on it, one
after the other in the row-major order of the source. Cells that land outside
are not even read. A read that fails stops the painting where it is: what was
painted before stays.

While a picture is see-through, source cells of the picture's own background
colour leave it alone. The background that the source declares plays no part
here; it matters only where windows are composed.

A picture is one of several things that can be painted on. What all of them offer
is a `Device`, and whatever can be recoloured cell by cell can be cleared.
-/

import LedMatrix.Pixmap.Basic

namespace LedMatrix

/-- Something that can be painted on cell by cell. -/
structure Device (σ : Type) where
  /-- The logical width. -/
  width : σ → Nat
  /-- The logical height. -/
  height : σ → Nat
  /-- The colour of a cleared cell. -/
  background : σ → Color
  /-- Recolour a cell, if there is one. -/
  setPixel : Int → Int → Color → Edit σ Unit

namespace Device

/-- How many positions are met when a length is counted up to in signed 32-bit
numbers. A length too large for them can turn out negative, and then none is met. -/
def counted (length : Nat) : Nat := (coordinate length).toNat

/-- Give the cells of row `y` one colour, from the left. -/
def clearRow {σ : Type} (device : Device σ) (color : Color) (y : Nat) : Edit σ Unit := do
  let now ← get
  (List.range (counted (device.width now))).forM fun (x : Nat) => device.setPixel x y color

/-- Give every cell the background colour, one row after the other. A cell that
cannot be recoloured ends it. -/
def clear {σ : Type} (device : Device σ) : Edit σ Unit := do
  let start ← get
  (List.range (counted (device.height start))).forM (device.clearRow (device.background start))

end Device

namespace Pixmap

/-- The cells of a source, in row-major order, that land on the picture when the
source is laid at `(x, y)`. -/
def landingCells (p : Pixmap) (source : Source) (x y : Int) (flip : Flip) : List (Nat × Nat) :=
  (landing (covered source.height) p.height y flip.y).flatMap fun sy =>
    (landing (covered source.width) p.width x flip.x).map fun sx => (sx, sy)

/-- Put one colour over a cell, which a see-through picture refuses if it is the
background colour. -/
def lay (p : Pixmap) (x y : Nat) (color : Color) : Pixmap :=
  if p.transparent ∧ color = p.background then p else p.recolor x y color

/-- Paint the given cells of a source laid at `(x, y)`, in the given order. -/
def paintCells (source : Source) (x y : Int) (flip : Flip) :
    List (Nat × Nat) → Edit Pixmap Unit
  | [] => pure ()
  | (sx, sy) :: rest => do
      let color ← liftExcept (source.pixel (coordinate sx) (coordinate sy))
      let column := (x + offset source.width flip.x sx).toNat
      let row := (y + offset source.height flip.y sy).toNat
      modify fun p => p.lay column row color
      paintCells source x y flip rest

/-- Lay a source over the picture with its upper left corner at `(x, y)`. -/
def draw (source : Source) (x y : Int) (flip : Flip) : Edit Pixmap Unit := do
  let p ← get
  paintCells source x y flip (p.landingCells source x y flip)

/-- The picture as a device. -/
def device : Device Pixmap where
  width := width
  height := height
  background := background
  setPixel := setPixel

/-- Give every cell the background colour, one cell at a time. It does what
`clear` does, by way of the orientation. -/
def clearCells : Edit Pixmap Unit := device.clear

/-- Exchange the colours of two cells. -/
def exchange (p : Pixmap) (first second : Nat × Nat) : Pixmap :=
  { p with
    memory := p.memory.swapIfInBounds
      (p.orientation.index first.1 first.2) (p.orientation.index second.1 second.2)
    size_memory := by rw [Array.size_swapIfInBounds, p.size_memory] }

/-- Mirror the picture in place. Every cell is paired with its mirror image, and
a pair is exchanged once, when its first cell in row-major order is met; a cell
that is its own image stays. -/
def mirror (p : Pixmap) (flip : Flip) : Pixmap :=
  (cells p.width p.height).foldl (fun p (x, y) =>
    let (mx, my) := (flip.column p.width x, flip.row p.height y)
    if y < my ∨ (y = my ∧ x < mx) then p.exchange (x, y) (mx, my) else p) p

/-- Copy a source into a new upright picture, which takes over the background
that the source declares. The first read that fails fails the copy. -/
def ofSource (source : Source) : Except CanvasError Pixmap :=
  (cells source.width source.height).foldlM (fun p (x, y) => do
    let color ← source.pixel x y
    return p.recolor x y color) ((blank source.width source.height).setBackground source.background)

/-- What can be asked of a picture that is painted on. -/
inductive Action where
  | setPixel (x y : Int) (color : Color)
  | fill (color : Color)
  | clear
  | draw (source : Source) (x y : Int) (flip : Flip)
  | mirror (flip : Flip)
  | rotate (degree : Int) (flip : Flip)
  | setBackground (color : Color)
  | setTransparent (transparent : Bool)

/-- Carry out one request. -/
def perform : Action → Edit Pixmap Unit
  | .setPixel x y color => setPixel x y color
  | .fill color => modify (·.fill color)
  | .clear => modify clear
  | .draw source x y flip => draw source x y flip
  | .mirror flip => modify (·.mirror flip)
  | .rotate degree flip => setRotation degree flip
  | .setBackground color => modify (·.setBackground color)
  | .setTransparent transparent => modify (·.setTransparent transparent)

end Pixmap

end LedMatrix
