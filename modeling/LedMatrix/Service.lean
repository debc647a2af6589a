/-
# The shared canvas

One strip is shared by everybody who sends commands. A command is carried out
as one step, and its reply says what came of it: a command that is refused gives
the reason and leaves the strip as it was. The switch for automatic rendering
does not belong to the strip and is thrown without touching it.
-/

import LedMatrix.Command
import LedMatrix.Glyph
import LedMatrix.Strip.Basic

namespace LedMatrix

/-- A strip with the switch for automatic rendering. -/
structure SharedCanvas (δ : Type) where
  strip : Strip δ
  autoRender : Bool := false

namespace SharedCanvas

variable {δ : Type} [StripDriver δ]

/-- Carry out a command on the strip. Queries have a value. -/
def apply : Command → Edit (Strip δ) (Option Nat)
  | .render => do Strip.render; return none
  | .drawPixel x y color => do Strip.paint (Pixmap.setPixel x y color); return none
  | .drawText x y text color background => do
      let paper := background.getD (← get).picture.background
      let glyph : Glyph := { lettering := .text text, ink := color, paper }
      Strip.paint (Pixmap.draw glyph.toSource x y Flip.none)
      return none
  | .drawNumber x y number color => do
      let paper := (← get).picture.background
      let glyph : Glyph := { lettering := .number number, ink := color, paper }
      Strip.paint (Pixmap.draw glyph.toSource x y Flip.none)
      return none
  | .clear => do Strip.paint (modify Pixmap.clear); return none
  | .width => return some (← get).width
  | .height => return some (← get).height
  | .pixel x y => do
      let color ← liftExcept ((← get).picture.pixel x y)
      return some color.toNat
  | .setRotate degree flipX flipY => do
      Strip.paint (Pixmap.setRotation degree { x := flipX, y := flipY })
      return none
  | .setTransparent enabled => do
      Strip.paint (modify (·.setTransparent enabled))
      return none
  | .setBackground color => do
      Strip.paint (modify (·.setBackground color))
      return none
  | .setAutoRender _ => return none

/-- Carry out a command and answer it. -/
def execute (command : Command) (canvas : SharedCanvas δ) : Response × SharedCanvas δ :=
  match command with
  | .setAutoRender enabled => (.done, { canvas with autoRender := enabled })
  | command =>
      match apply command canvas.strip with
      | .ok (some value) strip => (.ofValue value, { canvas with strip })
      | .ok none strip => (.done, { canvas with strip })
      | .error cause strip => (.refusal cause.message, { canvas with strip })

end SharedCanvas

end LedMatrix
