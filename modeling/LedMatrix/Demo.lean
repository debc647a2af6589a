/-
# The demo

A small scene that moves: two words on a see-through root window, a turned
window that drifts along the diagonal and a window that scrolls sideways. One
frame clears the strip, moves the two windows by one cell, wrapping around at
the edges of the root, and paints the root onto the strip.

A root without cells has no edges to wrap around. The scene can be built on it
but cannot move, and the attempt is a failure of its own kind. The same goes for a root
with a side that is zero as a signed number of 32 bits.
-/

import LedMatrix.Compositor.Picture
import LedMatrix.Glyph
import LedMatrix.Report
import LedMatrix.Strip.Basic

namespace LedMatrix

/-- Why a step of the demo fails. -/
inductive DemoError where
  | canvas (cause : CanvasError)
  /-- The remainder by a width or height that counts as zero. -/
  | divisionByZero
  deriving DecidableEq

/-- The moving scene. -/
structure Demo where
  compositor : Compositor
  root : WindowId
  drifting : WindowId
  scrolling : WindowId

namespace Demo

/-- Write a line of text at `(x, y)`. -/
def writeLine (text : String) (ink : Color) (x y : Int) : Edit Pixmap Unit :=
  let glyph : Glyph := { lettering := .text text, ink }
  Pixmap.draw glyph.toSource x y Flip.none

/-- Set up the windows of the scene. -/
def arrange (width height : Nat) : Edit Compositor (WindowId × WindowId × WindowId) := do
  let root ← Compositor.createWindow width height
  let drifting ← Compositor.createChild root 0 0 8 8
  let scrolling ← Compositor.createChild root 0 4 16 8
  Compositor.paint root do
    writeLine "Hello" .pureRed 0 0
    writeLine "World" .pureGreen 8 8
    modify (·.setTransparent true)
  Compositor.paint drifting do
    writeLine "!!" .pureBlue 0 0
    Pixmap.setRotation 90 Flip.none
  Compositor.paint scrolling (writeLine "1145" .white 0 0)
  return (root, drifting, scrolling)

/-- The scene on a root window of the given size. -/
def new (width height : Nat) : Except CanvasError Demo :=
  match arrange width height .empty with
  | .ok (root, drifting, scrolling) compositor => .ok { compositor, root, drifting, scrolling }
  | .error cause _ => .error cause

/-- A step that keeps what it has done when it fails. -/
abbrev Step (σ α : Type) := EStateM DemoError σ α

/-- A fallible part of a step. -/
def attempt {σ α : Type} : Except CanvasError α → Step σ α
  | .ok answer => pure answer
  | .error cause => throw (.canvas cause)

/-- An edit of the windows as a step of the demo. -/
def arrangeStep {α : Type} (edit : Edit Compositor α) : Step Demo α := fun demo =>
  match edit demo.compositor with
  | .ok answer compositor => .ok answer { demo with compositor }
  | .error cause compositor => .error (.canvas cause) { demo with compositor }

/-- The remainder of a division that goes toward zero. -/
def remainder {σ : Type} (value modulus : Int) : Step σ Int :=
  if modulus = 0 then throw .divisionByZero else return Int.tmod value modulus

/-- Move the two windows by one cell. What they wrap around at are the sides of the root as
signed numbers of 32 bits. -/
def advance : Step Demo Unit := do
  let demo ← get
  let root ← attempt (demo.compositor.view demo.root)
  let width := coordinate root.width
  let height := coordinate root.height
  let (x, y) := (← attempt (demo.compositor.position demo.drifting)).getD (0, 0)
  let column ← remainder (x + 1) width
  let row ← remainder (y + 1) height
  arrangeStep (Compositor.moveWindow demo.drifting column row)
  let demo ← get
  let (x, y) := (← attempt (demo.compositor.position demo.scrolling)).getD (0, 0)
  let column ← remainder (x + 1) width
  arrangeStep (Compositor.moveWindow demo.scrolling column y)

end Demo

/-- A scene and the strip it is played on. -/
structure Playback (δ : Type) where
  demo : Demo
  strip : Strip δ

namespace Playback

variable {δ : Type}

/-- An edit of the strip as a step of the playback. -/
def onStrip {α : Type} (edit : Edit (Strip δ) α) : Demo.Step (Playback δ) α := fun playback =>
  match edit playback.strip with
  | .ok answer strip => .ok answer { playback with strip }
  | .error cause strip => .error (.canvas cause) { playback with strip }

/-- A step of the scene as a step of the playback. -/
def onDemo {α : Type} (step : Demo.Step Demo α) : Demo.Step (Playback δ) α := fun playback =>
  match step playback.demo with
  | .ok answer demo => .ok answer { playback with demo }
  | .error cause demo => .error cause { playback with demo }

/-- Compose the next frame on the strip. -/
def frame : Demo.Step (Playback δ) Unit := do
  onStrip (Strip.paint (modify Pixmap.clear))
  onDemo Demo.advance
  let demo := (← get).demo
  let picture ← Demo.attempt (demo.compositor.view demo.root)
  onStrip (Strip.paint (Pixmap.draw picture 0 0 Flip.none))

end Playback

/-- Why the demo stops before its last frame. -/
inductive DemoStop where
  | reported (report : Report)
  /-- The program cannot go on at all. -/
  | divisionByZero
  deriving DecidableEq

namespace DemoStop

/-- What could not be done, and why. -/
def because (message : String) : DemoError → DemoStop
  | .canvas cause => .reported { message, causes := [cause.message] }
  | .divisionByZero => .divisionByZero

end DemoStop

namespace Playback

variable {δ : Type} [StripDriver δ]

/-- Compose the next frame and show it. -/
def showFrame (playback : Playback δ) : Except DemoStop Unit × Playback δ :=
  match frame playback with
  | .error error playback => (.error (.because "Failed to compose frame" error), playback)
  | .ok () playback =>
      match onStrip Strip.render playback with
      | .error error playback => (.error (.because "Failed to render frame" error), playback)
      | .ok () playback => (.ok (), playback)

/-- Show frames until there are `maxFrames` of them, if there are `shown` already,
and tell how many there are then. The first failure ends it. -/
def play (maxFrames shown : Nat) (playback : Playback δ) : Except DemoStop Nat × Playback δ :=
  if shown < maxFrames then
    match playback.showFrame with
    | (.ok (), playback) => play maxFrames (shown + 1) playback
    | (.error stop, playback) => (.error stop, playback)
  else (.ok shown, playback)
termination_by maxFrames - shown

end Playback

namespace Demo

variable {δ : Type} [StripDriver δ]

/-- Build the scene for a strip. -/
def start (strip : Strip δ) : Except DemoStop (Playback δ) :=
  match new strip.width strip.height with
  | .ok demo => .ok { demo, strip }
  | .error cause => .error (.because "Failed to build demo scene" (.canvas cause))

/-- Play a number of frames on a strip, and tell how many have been shown. -/
def run (maxFrames : Nat) (strip : Strip δ) : Except DemoStop Nat × Strip δ :=
  match start strip with
  | .error stop => (.error stop, strip)
  | .ok playback =>
      let (outcome, playback) := playback.play maxFrames 0
      (outcome, playback.strip)

end Demo

end LedMatrix
