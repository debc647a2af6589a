/-
# Stored pictures

A pixmap keeps its colours in one memory, laid out by its orientation, together
with a background colour and a flag that makes cells of that colour see-through
while something is painted over it. The memory has one place per cell; this is
part of the type, so turning and painting cannot lose or add a cell.

Reading and writing check the logical bounds first. Past that check the place
in memory always exists (`Orientation.index_lt`), so neither can fail in any
other way.
-/

import LedMatrix.Orientation
import LedMatrix.Source

namespace LedMatrix

/-- A picture held in memory. -/
structure Pixmap where
  orientation : Orientation
  /-- The colours in layout order. -/
  memory : Array Color
  /-- The colour of a cleared cell, and of a see-through one. -/
  background : Color := .black
  /-- Whether painting leaves cells alone where it would put the background. -/
  transparent : Bool := false
  size_memory : memory.size = orientation.area
  deriving DecidableEq

namespace Pixmap

/-- A cell takes four bytes, and a memory has fewer than `2 ^ 63`; this many cells
are too many. -/
def cellLimit : Nat := 0x2000000000000000

/-- Whether there is room for a picture of the given extent. It is asked before
a picture is made from an extent that somebody else has chosen. -/
def hasRoom (width height : Nat) : Bool := decide (width * height < cellLimit)

/-- A black picture. -/
def blank (width height : Nat) (layout : Layout := .raster) : Pixmap where
  orientation := { layout, physicalWidth := width, physicalHeight := height }
  memory := Array.replicate (width * height) .black
  size_memory := by simp [Orientation.area]

/-- The logical width. -/
def width (p : Pixmap) : Nat := p.orientation.width

/-- The logical height. -/
def height (p : Pixmap) : Nat := p.orientation.height

/-- The colour of the logical cell `(x, y)`, for cells of the picture. -/
def colorAt (p : Pixmap) (x y : Nat) : Color := p.memory.getD (p.orientation.index x y) .black

/-- The picture with the logical cell `(x, y)` recoloured, for cells of the
picture. -/
def recolor (p : Pixmap) (x y : Nat) (color : Color) : Pixmap :=
  { p with
    memory := p.memory.setIfInBounds (p.orientation.index x y) color
    size_memory := by rw [Array.size_setIfInBounds, p.size_memory] }

/-- Read a cell. -/
def pixel (p : Pixmap) (x y : Int) : Except CanvasError Color := do
  let (column, row) ← cellAt x y p.width p.height
  return p.colorAt column row

/-- Recolour a cell. A cell outside the picture changes nothing. -/
def setPixel (x y : Int) (color : Color) : Edit Pixmap Unit := do
  let p ← get
  let (column, row) ← liftExcept (cellAt x y p.width p.height)
  set (p.recolor column row color)

/-- The picture as something to read. -/
def toSource (p : Pixmap) : Source where
  width := p.width
  height := p.height
  background := p.background
  pixel := p.pixel

/-- Give every place of the memory one colour. -/
def fill (p : Pixmap) (color : Color) : Pixmap :=
  { p with
    memory := Array.replicate p.orientation.area color
    size_memory := Array.size_replicate }

/-- Give every cell the background colour. -/
def clear (p : Pixmap) : Pixmap := p.fill p.background

/-- The picture with another turn and other mirrors; the memory stays as it is. -/
def withRotation (p : Pixmap) (rotation : Rotation) (flip : Flip) : Pixmap :=
  { p with
    orientation := p.orientation.withRotation rotation flip
    size_memory := by rw [Orientation.area_withRotation, p.size_memory] }

/-- Take another turn and other mirrors. A degree that is no quarter turn is
refused. -/
def setRotation (degree : Int) (flip : Flip) : Edit Pixmap Unit := do
  let rotation ← liftExcept (Rotation.ofDegrees degree)
  modify (·.withRotation rotation flip)

/-- Choose the background colour. -/
def setBackground (p : Pixmap) (color : Color) : Pixmap := { p with background := color }

/-- Choose whether cells of the background colour are see-through. -/
def setTransparent (p : Pixmap) (transparent : Bool) : Pixmap := { p with transparent }

end Pixmap

end LedMatrix
