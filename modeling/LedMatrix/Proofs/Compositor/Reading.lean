/-
# Reading a window without counting levels

A window is read through a bounded number of levels, as many as there are slots.
In a sound arrangement the bound is never met: any two bounds that cover the levels
above a window give the same colours (`Linked.readWindow_eq`). What remains is an
equation without a bound (`Linked.read_eq`), in which the windows that lie on a
window are read just as callers read them.

`Compositor.layer` is what an entry of a registry contributes to a picture, and a
layer that can be read gives a cell its colour or passes it on to the next entry
(`shownBy`). So a window shows, at each cell, what its topmost contributing entry
shows, and its own picture where there is none.
-/

import LedMatrix.Proofs.Compositor.Reachable
import LedMatrix.Proofs.Pixmap.Cells
import LedMatrix.Proofs.Source

namespace LedMatrix

/-- A window as something to read, when it is known how its cells are read. -/
def Window.source (window : Window) (pixel : Int → Int → Except CanvasError Color) : Source where
  width := window.buffer.width
  height := window.buffer.height
  background := window.buffer.background
  pixel

namespace Compositor

variable {c : Compositor}

/-- What lies on a window, as something to read. -/
def layer (c : Compositor) : Node → Except CanvasError Source
  | .window id => c.view id
  | .source _ source => .ok source

/-- What lies on a window, with windows inside each other followed through `depth`
levels. -/
def layerWithin (c : Compositor) (depth : Nat) : Node → Except CanvasError Source
  | .source _ source => .ok source
  | .window id => do
      let child ← c.window id
      return child.source (c.readWindow depth child)

theorem view_of_find? {id : WindowId} {window : Window} (found : c.find? id = some window) :
    c.view id = .ok (window.source (c.read window)) := by
  rw [view, window_of_find? found]
  rfl

theorem pixel_of_find? {id : WindowId} {window : Window} (found : c.find? id = some window) :
    c.pixel id = c.read window := by
  funext x y
  rw [pixel, window_of_find? found]
  rfl

theorem layerWithin_of_find? {id : WindowId} {window : Window} (found : c.find? id = some window)
    (depth : Nat) :
    c.layerWithin depth (.window id) = .ok (window.source (c.readWindow depth window)) := by
  rw [layerWithin, window_of_find? found]
  rfl

/-- The reading of a cell once it is known what lies on the window. -/
def readOver (layerOf : Node → Except CanvasError Source) (window : Window) (x y : Int) :
    Except CanvasError Color := do
  let _ ← cellAt x y window.buffer.width window.buffer.height
  match ← readEntries layerOf window.buffer.transparent x y window.entries with
  | some color => return color
  | none => window.buffer.pixel x y

theorem readWindow_succ (c : Compositor) (depth : Nat) (window : Window) :
    c.readWindow (depth + 1) window = readOver (c.layerWithin depth) window := by
  funext x y
  rw [readWindow]
  rfl

/-- Only the nodes in the registry matter. -/
theorem readEntries_congr {first second : Node → Except CanvasError Source} {entries : List Entry}
    (same : ∀ entry ∈ entries, first entry.node = second entry.node) (seeThrough : Bool)
    (x y : Int) :
    readEntries first seeThrough x y entries = readEntries second seeThrough x y entries := by
  induction entries with
  | nil => rfl
  | cons entry rest ih =>
      have later := ih fun other member => same other (List.mem_cons_of_mem entry member)
      rw [readEntries, readEntries, same entry List.mem_cons_self, later]

theorem readOver_congr {first second : Node → Except CanvasError Source} {window : Window}
    (same : ∀ entry ∈ window.entries, first entry.node = second entry.node) :
    readOver first window = readOver second window := by
  funext x y
  rw [readOver, readOver, readEntries_congr same]

namespace Linked

variable (linked : c.Linked)
include linked

/-- A window in a registry is alive and one level further up. -/
theorem exists_find?_of_mem {id above : WindowId} {window : Window} {entry : Entry}
    (found : c.find? id = some window) (member : entry ∈ window.entries)
    (named : entry.node = .window above) :
    ∃ child, c.find? above = some child ∧ c.parent? above = some id ∧
      c.depth id < c.depth above := by
  have registered : Child.window above ∈ window.children :=
    List.mem_map.mpr ⟨entry, member, by rw [named, Node.child]⟩
  have link := (linked.mem_children_iff found above).mp registered
  obtain ⟨child, foundChild⟩ := isAlive_iff.mp (isAlive_of_parent? link)
  exact ⟨child, foundChild, link, linked.depth_lt_depth link⟩

/-- **Induction from the top.** What holds of a window whenever it holds of the windows that lie
on it, holds of every window. -/
theorem induction_above {motive : ∀ id window, c.find? id = some window → Prop}
    (step : ∀ id window (found : c.find? id = some window),
      (∀ above child (foundChild : c.find? above = some child), c.parent? above = some id →
        motive above child foundChild) → motive id window found)
    (id : WindowId) (window : Window) (found : c.find? id = some window) :
    motive id window found := by
  -- The windows on a window have more below them, and no window has as many as there are slots.
  induction height : c.slots.size - c.depth id using Nat.strong_induction_on
    generalizing id window with
  | _ height ih =>
      refine step id window found fun above child foundChild link => ?_
      have deeper := linked.depth_lt_depth link
      have bound := linked.depth_lt_size (isAlive_of_find? foundChild)
      exact ih _ (by omega) above child foundChild rfl

/-- **The bound on levels is never met.** Two bounds that, with the levels below a
window, come to the number of slots give the same colours. -/
theorem readWindow_eq {first second : Nat} {id : WindowId} {window : Window}
    (found : c.find? id = some window) (enough : c.slots.size ≤ first + c.depth id)
    (enough' : c.slots.size ≤ second + c.depth id) :
    c.readWindow first window = c.readWindow second window := by
  have bound := linked.depth_lt_size (isAlive_of_find? found)
  induction first generalizing second id window with
  | zero => omega
  | succ first ih =>
      cases second with
      | zero => omega
      | succ second =>
          rw [readWindow_succ, readWindow_succ]
          apply readOver_congr
          intro entry member
          cases named : entry.node with
          | source number source => rfl
          | window above =>
              obtain ⟨child, foundChild, -, deeper⟩ := linked.exists_find?_of_mem found member named
              have same : c.readWindow first child = c.readWindow second child :=
                ih foundChild (by omega) (by omega)
                  (linked.depth_lt_size (isAlive_of_find? foundChild))
              rw [layerWithin_of_find? foundChild, layerWithin_of_find? foundChild, same]

/-- A window is read over what lies on it, and that is read in the same way. -/
theorem read_eq {id : WindowId} {window : Window} (found : c.find? id = some window) :
    c.read window = readOver c.layer window := by
  have bound := linked.depth_lt_size (isAlive_of_find? found)
  unfold read
  cases slots : c.slots.size with
  | zero => omega
  | succ depth =>
      rw [readWindow_succ]
      apply readOver_congr
      intro entry member
      cases named : entry.node with
      | source number source => rfl
      | window above =>
          obtain ⟨child, foundChild, -, deeper⟩ := linked.exists_find?_of_mem found member named
          have same : c.readWindow depth child = c.read child :=
            linked.readWindow_eq foundChild (by omega) (by omega)
          rw [layerWithin_of_find? foundChild, layer, view_of_find? foundChild, same]

end Linked

/-! ## What a cell shows -/

end Compositor

/-- The colour that a layer laid at `(x, y)` gives to a cell of a window, if it reaches
the cell and a see-through window does not pass it over. -/
def Source.givenAt (layer : Source) (seeThrough : Bool) (x y : Int) (column row : Nat) :
    Option Color :=
  (layer.seenAt x y Flip.none column row).filter fun color =>
    ¬ (seeThrough = true ∧ color = layer.background)

namespace Compositor

variable {c : Compositor}

/-- The colour that an entry of a window gives to a cell, if any. -/
def givenBy (c : Compositor) (seeThrough : Bool) (column row : Nat) (entry : Entry) :
    Option Color :=
  match c.layer entry.node with
  | .ok layer => layer.givenAt seeThrough entry.x entry.y column row
  | .error _ => none

theorem givenBy_of_layer {entry : Entry} {layer : Source} (layered : c.layer entry.node = .ok layer)
    (seeThrough : Bool) (column row : Nat) :
    c.givenBy seeThrough column row entry =
      layer.givenAt seeThrough entry.x entry.y column row := by
  rw [givenBy, layered]

end Compositor

/-- A readable layer is read where it is seen, however the position is handed on. -/
theorem Source.Readable.pixel_coordinate {layer : Source} (readable : layer.Readable)
    {across down : Int} (left : 0 ≤ across) (right : across < layer.width) (above : 0 ≤ down)
    (below : down < layer.height) :
    layer.pixel (coordinate across) (coordinate down) =
      .ok (layer.colorAt across.toNat down.toNat) := by
  obtain ⟨column, rfl⟩ := Int.eq_ofNat_of_zero_le left
  obtain ⟨row, rfl⟩ := Int.eq_ofNat_of_zero_le above
  have hx : column < layer.width := Int.ofNat_lt.mp right
  have hy : row < layer.height := Int.ofNat_lt.mp below
  exact (Source.pixel_coordinate readable.width_lt readable.height_lt hx hy).trans
    (readable.pixel_eq hx hy)

namespace Compositor

variable {c : Compositor}

/-- An entry that can be read answers for a cell or leaves it to the entries after
it. -/
theorem readEntries_cons {entry : Entry} {rest : List Entry} {layer : Source}
    (layered : c.layer entry.node = .ok layer) (readable : layer.Readable) (seeThrough : Bool)
    (column row : Nat) :
    readEntries c.layer seeThrough column row (entry :: rest) =
      match layer.givenAt seeThrough entry.x entry.y column row with
      | some color => .ok (some color)
      | none => readEntries c.layer seeThrough column row rest := by
  have opened : readEntries c.layer seeThrough column row (entry :: rest) =
      if (column : Int) - entry.x < 0 ∨ (row : Int) - entry.y < 0 then
        readEntries c.layer seeThrough column row rest
      else if (layer.width : Int) ≤ column - entry.x ∨ (layer.height : Int) ≤ row - entry.y then
        readEntries c.layer seeThrough column row rest
      else do
        let color ← layer.pixel (coordinate (column - entry.x)) (coordinate (row - entry.y))
        if seeThrough ∧ color = layer.background then
          readEntries c.layer seeThrough column row rest
        else return some color := by
    rw [readEntries, layered, ← covered_of_lt readable.width_lt, ← covered_of_lt readable.height_lt]
    rfl
  rw [opened, Source.givenAt, Source.seenAt_none]
  by_cases inside : 0 ≤ (column : Int) - entry.x ∧ (column : Int) - entry.x < layer.width ∧
      0 ≤ (row : Int) - entry.y ∧ (row : Int) - entry.y < layer.height
  · have reached : ¬ ((column : Int) - entry.x < 0 ∨ (row : Int) - entry.y < 0) := by omega
    have covers : ¬ ((layer.width : Int) ≤ column - entry.x ∨
        (layer.height : Int) ≤ row - entry.y) := by omega
    have read := readable.pixel_coordinate inside.1 inside.2.1 inside.2.2.1 inside.2.2.2
    rw [if_neg reached, if_neg covers, if_pos inside, read, Option.filter_some]
    by_cases key : seeThrough = true ∧
        layer.colorAt (column - entry.x).toNat (row - entry.y).toNat = layer.background
    · rw [if_neg (by simpa using key)]
      exact if_pos key
    · rw [if_pos (decide_eq_true key)]
      exact if_neg key
  · rw [if_neg inside, Option.filter_none]
    by_cases before : (column : Int) - entry.x < 0 ∨ (row : Int) - entry.y < 0
    · exact if_pos before
    · rw [if_neg before]
      exact if_pos (by omega)

/-- A cell of a window shows what the first entry gives that gives anything. -/
theorem readEntries_eq {entries : List Entry}
    (layers : ∀ entry ∈ entries, ∃ layer, c.layer entry.node = .ok layer ∧ layer.Readable)
    (seeThrough : Bool) (column row : Nat) :
    readEntries c.layer seeThrough column row entries =
      .ok (entries.findSome? (c.givenBy seeThrough column row)) := by
  induction entries with
  | nil => rfl
  | cons entry rest ih =>
      obtain ⟨layer, layered, readable⟩ := layers entry List.mem_cons_self
      rw [readEntries_cons layered readable, List.findSome?_cons, givenBy_of_layer layered]
      cases layer.givenAt seeThrough entry.x entry.y column row with
      | some color => rfl
      | none => exact ih fun other member => layers other (List.mem_cons_of_mem entry member)

/-- The colour that a window shows at a cell: what the first entry gives that gives
anything, and else what the window's own picture has there. -/
def shownAt (c : Compositor) (window : Window) (column row : Nat) : Color :=
  (window.entries.findSome? (c.givenBy window.buffer.transparent column row)).getD
    (window.buffer.colorAt column row)

/-- A window all of whose entries can be read shows a colour at each of its cells. -/
theorem Linked.read_of_layers (linked : c.Linked) {id : WindowId} {window : Window}
    (found : c.find? id = some window)
    (layers : ∀ entry ∈ window.entries, ∃ layer, c.layer entry.node = .ok layer ∧ layer.Readable)
    {column row : Nat} (hx : column < window.buffer.width) (hy : row < window.buffer.height) :
    c.read window column row = .ok (c.shownAt window column row) := by
  rw [linked.read_eq found, readOver, cellAt_of_lt hx hy, readEntries_eq layers, shownAt]
  cases window.entries.findSome? (c.givenBy window.buffer.transparent column row) with
  | some color => rfl
  | none => exact window.buffer.pixel_of_lt hx hy

/-- A window is read like a picture of its size that has at each cell what the window
shows there, also where there is nothing to read. -/
theorem Linked.read_eq_pixel (linked : c.Linked) {id : WindowId} {window : Window}
    (found : c.find? id = some window)
    (layers : ∀ entry ∈ window.entries, ∃ layer, c.layer entry.node = .ok layer ∧ layer.Readable)
    {p : Pixmap} (width : p.width = window.buffer.width) (height : p.height = window.buffer.height)
    (colors : ∀ column row, column < p.width → row < p.height →
      p.colorAt column row = c.shownAt window column row) (x y : Int) :
    c.read window x y = p.pixel x y := by
  rw [Pixmap.pixel, width, height]
  cases inside : cellAt x y window.buffer.width window.buffer.height with
  | error cause =>
      rw [linked.read_eq found, readOver, inside]
      rfl
  | ok cell =>
      obtain ⟨column, row⟩ := cell
      obtain ⟨rfl, rfl, hx, hy⟩ := cellAt_eq_ok.mp inside
      rw [linked.read_of_layers found layers hx hy]
      exact congrArg Except.ok (colors column row (by rwa [width]) (by rwa [height])).symm

/-! ## Windows that can be read -/

end Compositor

/-- A window is of a size that fits, and so are the sources on it, which can be read. -/
structure Window.Fits (window : Window) : Prop where
  width_lt : window.buffer.width < lengthLimit
  height_lt : window.buffer.height < lengthLimit
  readable : ∀ entry ∈ window.entries, ∀ number source, entry.node = .source number source →
    source.Readable

namespace Compositor

variable {c : Compositor}

/-- Everything in the picture of a window fits. -/
def Legible (c : Compositor) (id : WindowId) : Prop :=
  ∀ above window, Relation.ReflTransGen c.LiesOn above id → c.find? above = some window →
    window.Fits

/-- What lies on a legible window is legible. -/
theorem Legible.above {id above : WindowId} (legible : c.Legible id)
    (link : c.parent? above = some id) : c.Legible above :=
  fun other window way => legible other window (way.tail link)

/-- **A legible window can be read**, and so can everything that lies on it. -/
theorem Linked.layers_readable (linked : c.Linked) {id : WindowId} {window : Window}
    (found : c.find? id = some window) (legible : c.Legible id) :
    ∀ entry ∈ window.entries, ∃ layer, c.layer entry.node = .ok layer ∧ layer.Readable := by
  induction id, window, found using linked.induction_above with
  | step id window found ih =>
      intro entry member
      cases named : entry.node with
      | source number source =>
          have fits := legible id window .refl found
          exact ⟨source, rfl, fits.readable entry member number source named⟩
      | window above =>
          obtain ⟨child, foundChild, link, -⟩ := linked.exists_find?_of_mem found member named
          have fits := legible above child (.single link) foundChild
          have layers := ih above child foundChild link (legible.above link)
          refine ⟨child.source (c.read child), view_of_find? foundChild, fits.width_lt,
            fits.height_lt, fun x y hx hy => ?_⟩
          exact ⟨_, linked.read_of_layers foundChild layers hx hy⟩

/-- A legible window is something readable, and it shows what it shows. -/
theorem Linked.readable_view (linked : c.Linked) {id : WindowId} {window : Window}
    (found : c.find? id = some window) (legible : c.Legible id) :
    (window.source (c.read window)).Readable ∧
      ∀ column row, column < window.buffer.width → row < window.buffer.height →
        (window.source (c.read window)).colorAt column row = c.shownAt window column row := by
  have layers := linked.layers_readable found legible
  have fits := legible id window .refl found
  refine ⟨⟨fits.width_lt, fits.height_lt,
    fun x y hx hy => ⟨_, linked.read_of_layers found layers hx hy⟩⟩, fun column row hx hy => ?_⟩
  have read :
      (window.source (c.read window)).pixel column row = .ok (c.shownAt window column row) :=
    linked.read_of_layers found layers hx hy
  rw [Source.colorAt, read]
  rfl

end Compositor

end LedMatrix
