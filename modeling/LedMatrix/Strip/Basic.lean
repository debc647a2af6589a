/-
# The strip

A strip is a picture that can be shown. Its memory is laid out the way the
panel is wired, so a frame is the memory as it is; turning the picture changes
how cells reach the memory and never what a frame means to the panel.

The strip keeps its driver to a life cycle: nothing is rendered before the
driver has been initialised, it is not initialised twice, and it is let go
exactly once. Letting go counts as done even if the driver reports a failure.
-/

import LedMatrix.Pixmap.Paint
import LedMatrix.Strip.Driver

namespace LedMatrix

/-- A picture bound to a driver. -/
structure Strip (δ : Type) where
  picture : Pixmap
  config : StripConfig
  driver : δ
  /-- Whether the driver is initialised. -/
  initialized : Bool := false

namespace Strip

variable {δ : Type}

/-- A black strip. Its driver is not touched before `init`. -/
def new (config : StripConfig) (driver : δ) : Strip δ where
  picture := Pixmap.blank config.width config.height .serpentine
  config := config
  driver := driver

/-- The memory in wiring order, as the next frame will send it. -/
def leds (strip : Strip δ) : Array Color := strip.picture.memory

/-- The logical width. -/
def width (strip : Strip δ) : Nat := strip.picture.width

/-- The logical height. -/
def height (strip : Strip δ) : Nat := strip.picture.height

/-- Paint on the picture of the strip. -/
def paint {α : Type} (edit : Edit Pixmap α) : Edit (Strip δ) α :=
  Edit.within Strip.picture (fun strip picture => { strip with picture }) edit

/-- Call the driver of the strip. -/
def call (edit : Edit δ Unit) : Edit (Strip δ) Unit :=
  Edit.within Strip.driver (fun strip driver => { strip with driver }) edit

/-- Take over the settings of a display. -/
def configure (display : DisplayConfig) : Edit (Strip δ) Unit :=
  paint do
    Pixmap.setRotation display.rotation.degrees display.flip
    modify fun picture =>
      (picture.setBackground display.background).setTransparent display.transparent

variable [StripDriver δ]

/-- Initialise the driver, unless it is. -/
def init : Edit (Strip δ) Unit := do
  let strip ← get
  if !strip.initialized then
    call (StripDriver.init strip.config)
    modify fun strip => { strip with initialized := true }

/-- Show the picture. -/
def render : Edit (Strip δ) Unit := do
  let strip ← get
  if !strip.initialized then throw .notInitialized
  call (StripDriver.render strip.leds)

/-- Wait until the last frame has been transferred. -/
def wait : Edit (Strip δ) Unit := do
  if !(← get).initialized then throw .notInitialized
  call StripDriver.wait

/-- Let go of the driver, unless it has been let go. -/
def uninit : Edit (Strip δ) Unit := do
  if (← get).initialized then
    modify fun strip => { strip with initialized := false }
    call StripDriver.uninit

/-- Give up the strip. A driver that is still initialised is let go; nobody is
left to hear of its failure. -/
def release (strip : Strip δ) : Strip δ :=
  match uninit strip with
  | .ok _ strip => strip
  | .error _ strip => strip

end Strip

end LedMatrix
