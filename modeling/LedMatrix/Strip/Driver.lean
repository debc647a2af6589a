/-
# Strip drivers

A driver is whatever brings frames to a strip: four calls on a state of its
own, each of which may fail. `Headless` is a driver without hardware that
remembers what it was given. `Scripted` stands in front of another driver,
writes down every call and makes some of them fail without passing them on.
-/

import LedMatrix.CanvasError
import LedMatrix.Config

namespace LedMatrix

/-- What a strip asks of its driver. Between a successful `init` and the next
`uninit` any number of frames may be rendered. -/
class StripDriver (δ : Type) where
  /-- Take hold of the hardware. -/
  init : StripConfig → Edit δ Unit
  /-- Show a frame, given in wiring order. -/
  render : Array Color → Edit δ Unit
  /-- Wait until the last frame has been transferred. -/
  wait : Edit δ Unit
  /-- Let go of the hardware. -/
  uninit : Edit δ Unit

/-- A driver without hardware. -/
structure Headless where
  initialized : Bool := false
  /-- How many frames it has taken. -/
  frames : Nat := 0
  /-- How often it was waited for. -/
  waits : Nat := 0
  /-- The last frame it has taken. -/
  lastFrame : Array Color := #[]
  /-- How long frames have to be. -/
  frameLength : Nat := 0
  deriving DecidableEq

namespace Headless

/-- Take a frame, which has to have the length announced at the start. -/
def render (frame : Array Color) : Edit Headless Unit := do
  let driver ← get
  if !driver.initialized then throw .notInitialized
  if frame.size ≠ driver.frameLength then
    throw (.driver ("frame has " ++ toString frame.size ++ " pixels, strip has "
      ++ toString driver.frameLength))
  set { driver with lastFrame := frame, frames := driver.frames + 1 }

instance : StripDriver Headless where
  init config := modify fun driver =>
    { driver with
      initialized := true
      frameLength := config.width * config.height
      lastFrame := Array.replicate (config.width * config.height) .black }
  render := render
  wait := modify fun driver => { driver with waits := driver.waits + 1 }
  uninit := modify fun driver => { driver with initialized := false }

end Headless

/-- The calls of a driver. -/
inductive DriverCall where
  | init
  | render
  | wait
  | uninit
  deriving DecidableEq

/-- The name of a call. -/
def DriverCall.name : DriverCall → String
  | init => "init"
  | render => "render"
  | wait => "wait"
  | uninit => "uninit"

/-- A driver with some calls made to fail. -/
structure Scripted (δ : Type) where
  /-- The driver behind. -/
  inner : δ
  /-- The calls that fail: which call, and the how-many-eth of its kind, counted
  from zero. -/
  failures : List (DriverCall × Nat) := []
  /-- The calls so far, the last one first. -/
  log : List DriverCall := []

namespace Scripted

variable {δ : Type}

/-- The calls so far in their order. -/
def calls (driver : Scripted δ) : List DriverCall := driver.log.reverse

/-- Write a call down, and pass it on unless it has to fail. -/
def pass (call : DriverCall) (edit : Edit δ Unit) : Edit (Scripted δ) Unit := do
  let driver ← get
  let number := driver.log.count call
  set { driver with log := call :: driver.log }
  if driver.failures.contains (call, number) then
    throw (.driver ("scripted " ++ call.name ++ " failure " ++ toString number))
  Edit.within Scripted.inner (fun driver inner => { driver with inner }) edit

instance [StripDriver δ] : StripDriver (Scripted δ) where
  init config := pass .init (StripDriver.init config)
  render frame := pass .render (StripDriver.render frame)
  wait := pass .wait StripDriver.wait
  uninit := pass .uninit StripDriver.uninit

end Scripted

end LedMatrix
