/-
# Windows and their arrangement

A compositor owns windows and knows which window lies on which. Every window
has a picture of its own and a registry of what lies on it, in the order in
which it was put there: other windows and shared sources, each at an offset.
The arrangement is written down twice, as an entry in the parent's registry and
as a link from the child to its parent, and the edits below keep both in step.

Windows live in slots. Destroying a window empties its slot and counts up the
slot's generation, so a handle to the old window names nothing any more, even
when the slot is used again. The slot emptied last is used first.

An edit that fails keeps what it has done up to then (`Edit`). That it has done
nothing is a property of the edits and not of their type.
-/

import LedMatrix.Pixmap.Paint

namespace LedMatrix

/-- Something that lies on a window. -/
inductive Node where
  | window (id : WindowId)
  | source (id : SourceId) (source : Source)

/-- The handle by which callers know a node. -/
def Node.child : Node → Child
  | .window id => .window id
  | .source id _ => .source id

/-- A place in a registry: what lies there and at which offset. -/
structure Entry where
  node : Node
  x : Int
  y : Int

/-- A window. -/
structure Window where
  /-- The window's own picture, without what lies on it. -/
  buffer : Pixmap
  /-- What lies on the window, the topmost first. -/
  entries : List Entry := []
  /-- The window on which this one lies. -/
  parent : Option WindowId := none

namespace Window

/-- Take an entry out of the registry, if it is there. -/
def withoutChild (window : Window) (child : Child) : Window :=
  { window with entries := window.entries.filter fun entry => entry.node.child ≠ child }

/-- Put an entry at the end of the registry. -/
def withEntry (window : Window) (entry : Entry) : Window :=
  { window with entries := window.entries ++ [entry] }

/-- Where in the registry a child stands. -/
def indexOf? (window : Window) (child : Child) : Option Nat :=
  window.entries.findIdx? fun entry => entry.node.child = child

end Window

/-- A place for a window. -/
structure Slot where
  /-- How often the slot has been vacated, modulo `2 ^ 32`. -/
  generation : UInt32 := 0
  window : Option Window

/-- All windows and how they lie on each other. -/
structure Compositor where
  slots : Array Slot := #[]
  /-- The empty slots, the one to be used next first. -/
  free : List Nat := []
  /-- The number of the next registration of a source. -/
  nextSource : UInt32 := 0

namespace Compositor

/-- A compositor without windows. -/
def empty : Compositor := {}

/-- The number of live windows. -/
def size (c : Compositor) : Nat := c.slots.size - c.free.length

/-- The window that a handle names. -/
def find? (c : Compositor) (id : WindowId) : Option Window :=
  match c.slots[id.slot]? with
  | some slot => if slot.generation = id.generation then slot.window else none
  | none => none

/-- The window that a handle names, or the report that it is stale. -/
def window (c : Compositor) (id : WindowId) : Except CanvasError Window :=
  match c.find? id with
  | some window => .ok window
  | none => .error (.staleWindow id)

/-- Whether a handle names a window. -/
def isAlive (c : Compositor) (id : WindowId) : Bool := (c.find? id).isSome

/-- Change the window that a handle names; a stale handle changes nothing. -/
def update (c : Compositor) (id : WindowId) (change : Window → Window) : Compositor :=
  if c.isAlive id then
    { c with
      slots := c.slots.modify id.slot fun slot => { slot with window := slot.window.map change } }
  else c

theorem find?_update_same (c : Compositor) (id : WindowId) (change : Window → Window) :
    (c.update id change).find? id = (c.find? id).map change := by
  unfold update isAlive
  split
  · rename_i alive
    simp only [find?, Array.getElem?_modify, if_true] at alive ⊢
    cases c.slots[id.slot]? with
    | none => rfl
    | some slot =>
        simp only [Option.map_some]
        split <;> rfl
  · rename_i dead
    simp only [Bool.not_eq_true, Option.isSome_eq_false_iff, Option.isNone_iff_eq_none] at dead
    simp [dead]

theorem find?_update_of_ne (c : Compositor) {id other : WindowId} (change : Window → Window)
    (distinct : other ≠ id) : (c.update id change).find? other = c.find? other := by
  unfold update isAlive
  split
  · rename_i alive
    by_cases sameSlot : id.slot = other.slot
    · simp only [find?, Array.getElem?_modify, sameSlot, if_true] at alive ⊢
      cases found : c.slots[other.slot]? with
      | none => rfl
      | some slot =>
          simp only [found] at alive
          simp only [Option.map_some]
          by_cases mine : slot.generation = id.generation
          · have foreign : slot.generation ≠ other.generation := by
              intro same
              apply distinct
              cases id
              cases other
              simp_all
            simp [foreign]
          · simp [mine] at alive
    · simp [find?, Array.getElem?_modify, sameSlot]
  · rfl

/-- The window that a handle names, as a step of an edit. -/
def fetch (id : WindowId) : Edit Compositor Window := do
  liftExcept ((← get).window id)

/-- Change the window that a handle names, as a step of an edit that fails when
the handle is stale. -/
def amend (id : WindowId) (change : Window → Window) : Edit Compositor Unit := do
  let _ ← fetch id
  modify (·.update id change)

/-- Put a new black window into a slot, without a parent. -/
def createWindow (width height : Nat) : Edit Compositor WindowId := do
  let c ← get
  let window : Window := { buffer := Pixmap.blank width height }
  match c.free with
  | slot :: free =>
      set { c with
        slots := c.slots.modify slot fun s => { s with window := some window }
        free }
      return { slot, generation := ((c.slots[slot]?).map (·.generation)).getD 0 }
  | [] =>
      set { c with slots := c.slots.push { window := some window } }
      return { slot := c.slots.size, generation := 0 }

/-- Follow the links to the parents, at most `steps` of them, and tell whether
the walk from a window meets the candidate. -/
def walkMeets (c : Compositor) (candidate : WindowId) : (steps : Nat) → WindowId → Bool
  | 0, id => id = candidate
  | steps + 1, id =>
      if id = candidate then true
      else
        match (c.find? id).bind (·.parent) with
        | some parent => c.walkMeets candidate steps parent
        | none => false

/-- Whether a window is the candidate or lies on it, directly or not. A walk
without repetition has at most as many steps as there are slots. -/
def isAncestorOrSelf (c : Compositor) (candidate id : WindowId) : Bool :=
  c.walkMeets candidate c.slots.size id

/-- Take a window off its parent, if it lies on one. -/
def unlink (c : Compositor) (id : WindowId) : Compositor :=
  match (c.find? id).bind (·.parent) with
  | some parent =>
      (c.update id fun window => { window with parent := none }).update parent
        (·.withoutChild (.window id))
  | none => c

/-- Lay a window on another one, above nothing that lies there already. It is
taken off the window on which it lay before. -/
def add (parent child : WindowId) (x y : Int) : Edit Compositor Unit := do
  let _ ← fetch parent
  let _ ← fetch child
  if (← get).isAncestorOrSelf child parent then throw (.cycle parent child)
  modify (·.unlink child)
  amend parent (·.withEntry { node := .window child, x, y })
  amend child fun window => { window with parent := some parent }

/-- Create a window that lies on another one. -/
def createChild (parent : WindowId) (x y : Int) (width height : Nat) :
    Edit Compositor WindowId := do
  let _ ← fetch parent
  let id ← createWindow width height
  add parent id x y
  return id

/-- Empty a slot. -/
def vacate (c : Compositor) (slot : Nat) : Compositor :=
  { c with
    slots := c.slots.modify slot fun s => { generation := s.generation + 1, window := none }
    free := slot :: c.free }

/-- Cut the link of a node to its parent. Sources have none. -/
def orphan (c : Compositor) : Node → Compositor
  | .window id => c.update id fun window => { window with parent := none }
  | .source _ _ => c

/-- Destroy a window. The windows that lay on it live on without a parent. -/
def destroy (id : WindowId) : Edit Compositor Unit := do
  let _ ← fetch id
  modify (·.unlink id)
  let window ← fetch id
  modify (·.vacate id.slot)
  modify fun c => window.entries.foldl (fun c entry => c.orphan entry.node) c

/-- Lay a shared source on a window. Every registration has a handle of its
own, even of the same source. -/
def addSource (parent : WindowId) (source : Source) (x y : Int) : Edit Compositor SourceId := do
  let id : SourceId := ⟨(← get).nextSource⟩
  amend parent (·.withEntry { node := .source id source, x, y })
  modify fun c => { c with nextSource := c.nextSource + 1 }
  return id

/-- The place of a child in a window's registry. -/
def place (parent : WindowId) (child : Child) : Edit Compositor Nat := do
  match (← fetch parent).indexOf? child with
  | some index => return index
  | none => throw (.notAChild parent child)

/-- Take an entry out of a window's registry. -/
def removeEntry (parent : WindowId) (child : Child) : Edit Compositor Unit := do
  let index ← place parent child
  amend parent fun window => { window with entries := window.entries.eraseIdx index }

/-- Give an entry of a window's registry another offset. -/
def setOffset (parent : WindowId) (child : Child) (x y : Int) : Edit Compositor Unit := do
  let index ← place parent child
  amend parent fun window =>
    { window with entries := window.entries.modify index fun entry => { entry with x, y } }

/-- Take a window off the given parent. -/
def remove (parent child : WindowId) : Edit Compositor Unit := do
  let _ ← fetch child
  removeEntry parent (.window child)
  amend child fun window => { window with parent := none }

/-- Take a registration of a source off a window. -/
def removeSource (parent : WindowId) (source : SourceId) : Edit Compositor Unit :=
  removeEntry parent (.source source)

/-- Move a window on its parent. -/
def moveWindow (id : WindowId) (x y : Int) : Edit Compositor Unit := do
  match (← fetch id).parent with
  | some parent => setOffset parent (.window id) x y
  | none => throw (.orphan id)

/-- Move a registration of a source on a window. -/
def moveSource (parent : WindowId) (source : SourceId) (x y : Int) : Edit Compositor Unit :=
  setOffset parent (.source source) x y

/-- Paint on a window's own picture, never on what lies on it. -/
def paint {α : Type} (id : WindowId) (edit : Edit Pixmap α) : Edit Compositor α := do
  let window ← fetch id
  match edit window.buffer with
  | .ok answer buffer =>
      modify (·.update id fun window => { window with buffer })
      return answer
  | .error cause buffer =>
      modify (·.update id fun window => { window with buffer })
      throw cause

/-- The window on which a window lies. -/
def parent (c : Compositor) (id : WindowId) : Except CanvasError (Option WindowId) :=
  (c.window id).map (·.parent)

/-- The offset of a window on its parent. -/
def position (c : Compositor) (id : WindowId) : Except CanvasError (Option (Int × Int)) := do
  match (← c.window id).parent with
  | none => return none
  | some parent =>
      let entries := (← c.window parent).entries
      return (entries.find? fun entry => entry.node.child = .window id).map
        fun entry => (entry.x, entry.y)

/-- What lies on a window, the topmost first, with offsets. -/
def children (c : Compositor) (id : WindowId) : Except CanvasError (List (Child × Int × Int)) :=
  (c.window id).map fun window =>
    window.entries.map fun entry => (entry.node.child, entry.x, entry.y)

/-- How many entries a window's registry has. -/
def childCount (c : Compositor) (id : WindowId) : Except CanvasError Nat :=
  (c.window id).map (·.entries.length)

end Compositor

end LedMatrix
