/-
# Configuration

What can be set before the program starts: the strip and its wiring, the first
orientation of the picture, the command server and the demo. Every setting has
a default, and a configuration file only has to name what it changes.
-/

import LedMatrix.Color
import LedMatrix.Orientation

namespace LedMatrix

/-- The order in which the chips of a strip expect the colour bytes. -/
inductive StripType where
  | rgb
  | rbg
  | grb
  | gbr
  | brg
  | bgr
  deriving DecidableEq

namespace StripType

/-- The number that the hardware driver uses for the order: the shift of each
component, red in the third byte, green in the second and blue in the first. -/
def code : StripType → Nat
  | rgb => 0x00100800
  | rbg => 0x00100008
  | grb => 0x00081000
  | gbr => 0x00080010
  | brg => 0x00001008
  | bgr => 0x00000810

/-- The written name of an order. -/
def name : StripType → String
  | rgb => "rgb"
  | rbg => "rbg"
  | grb => "grb"
  | gbr => "gbr"
  | brg => "brg"
  | bgr => "bgr"

/-- All orders, in the order in which their names are listed. -/
def all : List StripType := [rgb, rbg, grb, gbr, brg, bgr]

end StripType

/-- The strip: its grid and the parameters of its driver. -/
structure StripConfig where
  /-- Physical cells in a row. -/
  width : Nat := 8
  /-- Physical rows. -/
  height : Nat := 8
  /-- The channel used for the transfer. -/
  dma : Int := 10
  /-- The pin that carries the signal. -/
  gpio : Int := 18
  brightness : Nat := 255
  stripType : StripType := .grb
  /-- The frequency of the signal in hertz. -/
  frequency : Nat := 800000
  /-- Whether the signal passes through an inverting shifter. -/
  invert : Bool := false
  deriving DecidableEq

/-- How the picture is shown at the start. -/
structure DisplayConfig where
  rotation : Rotation := .upright
  flipX : Bool := false
  flipY : Bool := false
  background : Color := .black
  transparent : Bool := false
  deriving DecidableEq

/-- The mirrors of a display. -/
def DisplayConfig.flip (display : DisplayConfig) : Flip where
  x := display.flipX
  y := display.flipY

/-- The command server. -/
structure ServerConfig where
  /-- The address it listens on. -/
  bind : String := "0.0.0.0:7890"
  /-- The period of automatic rendering in milliseconds. -/
  autoRenderInterval : Nat := 33
  /-- Whether automatic rendering is on at the start. -/
  autoRender : Bool := false
  deriving DecidableEq

/-- The demo. -/
structure DemoConfig where
  /-- The pause between two frames in milliseconds. -/
  frameInterval : Nat := 100
  /-- The number of frames to play; without one the demo does not stop. -/
  maxFrames : Option Nat := none
  deriving DecidableEq

/-- A whole configuration. -/
structure Config where
  strip : StripConfig := {}
  display : DisplayConfig := {}
  server : ServerConfig := {}
  demo : DemoConfig := {}
  deriving DecidableEq

end LedMatrix
