/-
# The picture of a window

A window is read together with everything that lies on it. At every cell the
entries are asked in the order of the registry, and the first one that covers
the cell gives its colour. On a see-through window an entry is passed over
where it shows the background that it declares itself. Where no entry answers,
the window's own picture does.
-/

import LedMatrix.Compositor.Basic

namespace LedMatrix.Compositor

/-- The colour that the entries of a window give to the cell `(x, y)`, if any of
them does. `layerOf` turns an entry into something to read. An entry whose
corner lies to the right of the cell or below it is not looked at at all. -/
def readEntries (layerOf : Node → Except CanvasError Source) (seeThrough : Bool) (x y : Int) :
    List Entry → Except CanvasError (Option Color)
  | [] => .ok none
  | entry :: rest => do
      let column := x - entry.x
      let row := y - entry.y
      if column < 0 ∨ row < 0 then readEntries layerOf seeThrough x y rest
      else
        let layer ← layerOf entry.node
        if covered layer.width ≤ column ∨ covered layer.height ≤ row then
          readEntries layerOf seeThrough x y rest
        else
          let color ← layer.pixel (coordinate column) (coordinate row)
          if seeThrough ∧ color = layer.background then readEntries layerOf seeThrough x y rest
          else return some color

/-- The colour of a window's cell, with windows inside each other followed
through `depth` levels. -/
def readWindow (c : Compositor) : (depth : Nat) → Window → Int → Int → Except CanvasError Color
  | 0, window, x, y => window.buffer.pixel x y
  | depth + 1, window, x, y => do
      let _ ← cellAt x y window.buffer.width window.buffer.height
      let layerOf : Node → Except CanvasError Source
        | .source _ source => .ok source
        | .window id => do
            let child ← c.window id
            return {
              width := child.buffer.width
              height := child.buffer.height
              background := child.buffer.background
              pixel := c.readWindow depth child }
      match ← readEntries layerOf window.buffer.transparent x y window.entries with
      | some color => return color
      | none => window.buffer.pixel x y

/-- The colour of a window's cell, with everything that lies on it. No window
lies on itself, so there are at most as many levels as slots. -/
def read (c : Compositor) (window : Window) (x y : Int) : Except CanvasError Color :=
  c.readWindow c.slots.size window x y

/-- The colour of a cell of the window that a handle names. -/
def pixel (c : Compositor) (id : WindowId) (x y : Int) : Except CanvasError Color := do
  c.read (← c.window id) x y

/-- A window and everything that lies on it, as something to read. -/
def view (c : Compositor) (id : WindowId) : Except CanvasError Source := do
  let window ← c.window id
  return {
    width := window.buffer.width
    height := window.buffer.height
    background := window.buffer.background
    pixel := c.read window }

/-- A window and everything that lies on it, as one picture. -/
def snapshot (c : Compositor) (id : WindowId) : Except CanvasError Pixmap := do
  Pixmap.ofSource (← c.view id)

/-- Paint the picture of a window onto the own picture of another one. -/
def drawWindow (target source : WindowId) (x y : Int) (flip : Flip) : Edit Compositor Unit := do
  let picture ← liftExcept ((← get).snapshot source)
  paint target (Pixmap.draw picture.toSource x y flip)

end LedMatrix.Compositor
