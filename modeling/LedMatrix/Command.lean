/-
# Commands and replies

What a client may ask of a canvas, and what it is told. A reply says whether
the command was carried out; a query adds a number, a refusal adds a reason.
-/

import LedMatrix.Color

namespace LedMatrix

/-- A request to the canvas. -/
inductive Command where
  /-- Show the picture on the strip. -/
  | render
  | drawPixel (x y : Int) (color : Color)
  /-- Write a line of text. Without a background of its own the text takes that
  of the canvas, which a see-through canvas leaves out. -/
  | drawText (x y : Int) (text : String) (color : Color) (background : Option Color)
  | drawNumber (x y : Int) (number : Nat) (color : Color)
  | clear
  | width
  | height
  | pixel (x y : Int)
  | setRotate (degree : Int) (flipX flipY : Bool)
  | setTransparent (enabled : Bool)
  | setBackground (color : Color)
  | setAutoRender (enabled : Bool)
  deriving DecidableEq

/-- The answer to one command. -/
structure Response where
  ok : Bool
  value : Option Nat := none
  error : Option String := none
  deriving DecidableEq

namespace Response

/-- The command was carried out. -/
def done : Response := { ok := true }

/-- The answer to a query. -/
def ofValue (value : Nat) : Response := { ok := true, value := some value }

/-- The command was refused. -/
def refusal (reason : String) : Response := { ok := false, error := some reason }

end Response

end LedMatrix
