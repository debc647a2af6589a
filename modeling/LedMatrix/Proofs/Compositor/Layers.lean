/-
# Reading a window and painting it

The picture of a window can be had in two ways. A snapshot asks, for each cell, the
entries of the window from the top, and stops at the first that answers. A painter
starts with the window's own picture and paints the entries over it from the bottom,
each as a picture of its own that has been flattened before.

`snapshot_eq_painted` says that both give the same picture, as long as what lies on
the window can be read. A see-through window passes over the background that an
entry declares, so the painter declares this background before the entry is
painted.
-/

import LedMatrix.Proofs.Compositor.Reading
import LedMatrix.Proofs.Pixmap.Drawing

namespace LedMatrix

/-- On a picture that keeps the background of a layer and the window's flag, painting
the layer does what the window does with it. -/
theorem Pixmap.under_seenAt (p : Pixmap) (layer : Source) (x y : Int) (old : Color)
    (background : p.background = layer.background) (column row : Nat) :
    p.under old (layer.seenAt x y Flip.none column row) =
      (layer.givenAt p.transparent x y column row).getD old := by
  unfold Source.givenAt
  cases layer.seenAt x y Flip.none column row with
  | none => rfl
  | some color =>
      rw [Pixmap.under, background, Option.filter_some]
      by_cases key : p.transparent = true ∧ color = layer.background
      · simp [key]
      · simp [key]

namespace Compositor

variable {c : Compositor}

/-! ## The painter -/

/-- What lies on a window as a picture of its own: a window with everything on it, or
a copy of a source. -/
def flatten (c : Compositor) : Node → Except CanvasError Pixmap
  | .window id => c.snapshot id
  | .source _ source => Pixmap.ofSource source

/-- The background that something on a window declares. -/
def declared (c : Compositor) : Node → Except CanvasError Color
  | .window id => (c.window id).map (·.buffer.background)
  | .source _ source => .ok source.background

/-- Paint one entry of a window, which is see-through or not, over a picture. -/
def paintEntry (c : Compositor) (seeThrough : Bool) (entry : Entry) : Edit Pixmap Unit := do
  let picture ← liftExcept (c.flatten entry.node)
  let background ← liftExcept (c.declared entry.node)
  modify fun p => (p.setBackground background).setTransparent seeThrough
  Pixmap.draw picture.toSource entry.x entry.y Flip.none

/-- Paint what lies on a window over a picture, the last registered entry first. -/
def paintEntries (c : Compositor) (window : Window) : Edit Pixmap Unit :=
  window.entries.reverse.forM (c.paintEntry window.buffer.transparent)

theorem flatten_of_layer {node : Node} {layer : Source} (layered : c.layer node = .ok layer) :
    c.flatten node = Pixmap.ofSource layer := by
  cases node with
  | window id =>
      change (c.view id >>= fun view => Pixmap.ofSource view) = _
      rw [show c.view id = .ok layer from layered]
      rfl
  | source number source =>
      obtain rfl : source = layer := Except.ok.inj layered
      rfl

theorem declared_of_layer {node : Node} {layer : Source} (layered : c.layer node = .ok layer) :
    c.declared node = .ok layer.background := by
  cases node with
  | window id =>
      change c.view id = .ok layer at layered
      cases found : c.find? id with
      | none =>
          rw [view, Compositor.window, found] at layered
          cases layered
      | some window =>
          obtain rfl := Except.ok.inj ((view_of_find? found).symm.trans layered)
          rw [declared, window_of_find? found]
          rfl
  | source number source =>
      obtain rfl : source = layer := Except.ok.inj layered
      rfl

/-- Painting an entry that can be read gives each cell what the entry gives it, and leaves
the others alone. -/
theorem paintEntry_eq {entry : Entry} {layer : Source} (layered : c.layer entry.node = .ok layer)
    (readable : layer.Readable) (seeThrough : Bool) (p : Pixmap) :
    ∃ q, c.paintEntry seeThrough entry p = .ok () q ∧ q.orientation = p.orientation ∧
      ∀ column row, column < p.width → row < p.height →
        q.colorAt column row =
          (c.givenBy seeThrough column row entry).getD (p.colorAt column row) := by
  obtain ⟨picture, flattened, copy⟩ := Pixmap.ofSource_eq readable
  let ready := (p.setBackground layer.background).setTransparent seeThrough
  obtain ⟨q, drawn, frame, colors⟩ :=
    Pixmap.draw_eq (copy.readable readable) entry.x entry.y Flip.none ready
  refine ⟨q, ?_, frame.orientation, fun column row hx hy => ?_⟩
  · rw [paintEntry, flatten_of_layer layered, flattened, declared_of_layer layered]
    exact drawn
  · rw [givenBy_of_layer layered, colors column row hx hy, copy.seenAt_eq]
    exact ready.under_seenAt layer entry.x entry.y _ rfl column row

/-- **Painting from the bottom shows what reading from the top finds.** The entry that
is painted last covers all others, and it is the first to be asked. -/
theorem forM_paintEntry_eq {entries : List Entry}
    (layers : ∀ entry ∈ entries, ∃ layer, c.layer entry.node = .ok layer ∧ layer.Readable)
    (seeThrough : Bool) (p : Pixmap) :
    ∃ q, entries.reverse.forM (c.paintEntry seeThrough) p = .ok () q ∧
      q.orientation = p.orientation ∧
      ∀ column row, column < p.width → row < p.height →
        q.colorAt column row =
          (entries.findSome? (c.givenBy seeThrough column row)).getD (p.colorAt column row) := by
  induction entries with
  | nil => exact ⟨p, rfl, rfl, fun _ _ _ _ => rfl⟩
  | cons entry rest ih =>
      obtain ⟨below, ran, kept, colors⟩ :=
        ih fun other member => layers other (List.mem_cons_of_mem entry member)
      obtain ⟨layer, layered, readable⟩ := layers entry List.mem_cons_self
      obtain ⟨q, painted, kept', colors'⟩ := paintEntry_eq layered readable seeThrough below
      refine ⟨q, ?_, kept'.trans kept, fun column row hx hy => ?_⟩
      · rw [List.reverse_cons]
        exact (Edit.forM_concat_of_ok ran entry).trans painted
      · have hx' : column < below.width := by rwa [Pixmap.width, kept]
        have hy' : row < below.height := by rwa [Pixmap.height, kept]
        rw [colors' column row hx' hy', colors column row hx hy, List.findSome?_cons]
        cases c.givenBy seeThrough column row entry <;> rfl

/-- **A snapshot is what a painter paints**, who starts with a copy of the window's own
picture. It needs everything in the window's picture to be of a size that fits and to
be readable; the offsets and the turns are arbitrary. -/
theorem snapshot_eq_painted (reachable : c.Reachable) {id : WindowId} {window : Window}
    (found : c.find? id = some window) (legible : c.Legible id) :
    ∃ flat painted, c.snapshot id = .ok flat ∧
      c.paintEntries window window.buffer = .ok () painted ∧
      flat.width = painted.width ∧ flat.height = painted.height ∧
      ∀ x y : Int, flat.pixel x y = painted.pixel x y ∧ c.pixel id x y = painted.pixel x y := by
  have linked := reachable.sound.linked
  have layers := linked.layers_readable found legible
  obtain ⟨readable, shown⟩ := linked.readable_view found legible
  obtain ⟨flat, flattened, copy⟩ := Pixmap.ofSource_eq readable
  obtain ⟨painted, ran, kept, colors⟩ :=
    forM_paintEntry_eq layers window.buffer.transparent window.buffer
  have width : painted.width = window.buffer.width := by
    rw [Pixmap.width, kept]
    rfl
  have height : painted.height = window.buffer.height := by
    rw [Pixmap.height, kept]
    rfl
  have readFlat := linked.read_eq_pixel found layers copy.width_eq copy.height_eq
    fun column row hx hy => by
      rw [copy.width_eq] at hx
      rw [copy.height_eq] at hy
      rw [copy.colorAt column row hx hy, shown column row hx hy]
  have readPainted := linked.read_eq_pixel found layers width height fun column row hx hy =>
    colors column row (by rwa [← width]) (by rwa [← height])
  refine ⟨flat, painted, ?_, ran, copy.width_eq.trans width.symm, copy.height_eq.trans height.symm,
    fun x y => ⟨(readFlat x y).symm.trans (readPainted x y), ?_⟩⟩
  · rw [snapshot, view_of_find? found]
    exact flattened
  · rw [pixel_of_find? found]
    exact readPainted x y

/-- A see-through window of two by two cells. On it lie a turned window with one cell
that is not black and, further down and over the left edge, a picture of one cell. -/
def plate : Compositor :=
  run [.createWindow 2 2, .createChild ⟨0, 0⟩ 1 0 2 1,
    .paint ⟨0, 0⟩ (Pixmap.perform (.setTransparent true)),
    .paint ⟨1, 0⟩ (Pixmap.perform (.rotate 90 Flip.none)),
    .paint ⟨1, 0⟩ (Pixmap.perform (.setPixel 0 0 .white)),
    .addSource ⟨0, 0⟩ (Pixmap.blank 1 1).toSource (-1) 1]

/-- The window at the bottom of `plate`. -/
def plateBase : Window where
  buffer := (Pixmap.blank 2 2).setTransparent true
  entries := [⟨.window ⟨1, 0⟩, 1, 0⟩, ⟨.source ⟨0⟩ (Pixmap.blank 1 1).toSource, -1, 1⟩]

theorem snapshot_eq_painted_plate :
    plate.find? ⟨0, 0⟩ = some plateBase ∧ plate.Legible ⟨0, 0⟩ ∧
      ∃ flat painted, plate.snapshot ⟨0, 0⟩ = .ok flat ∧
        plate.paintEntries plateBase plateBase.buffer = .ok () painted ∧
        flat.width = painted.width ∧ flat.height = painted.height ∧
        ∀ x y : Int, flat.pixel x y = painted.pixel x y ∧
          plate.pixel ⟨0, 0⟩ x y = painted.pixel x y := by
  have found : plate.find? ⟨0, 0⟩ = some plateBase := rfl
  have turned : plate.find? ⟨1, 0⟩ = some {
      buffer := ((Pixmap.blank 2 1).withRotation .quarter Flip.none).recolor 0 0 .white
      parent := some ⟨0, 0⟩ } := rfl
  have alive : plate.live = [⟨0, 0⟩, ⟨1, 0⟩] := by decide
  have legible : plate.Legible ⟨0, 0⟩ := by
    intro above window _ foundAbove
    have listed := mem_live.mpr (isAlive_iff.mpr ⟨window, foundAbove⟩)
    rw [alive, List.mem_cons, List.mem_singleton] at listed
    rcases listed with rfl | rfl
    · obtain rfl := Option.some.inj (found.symm.trans foundAbove)
      refine ⟨by decide, by decide, fun entry member number source named => ?_⟩
      rcases List.mem_cons.mp member with rfl | last
      · cases named
      · obtain rfl := List.mem_singleton.mp last
        obtain ⟨-, rfl⟩ := Node.source.inj named
        exact (Pixmap.blank 1 1).readable_toSource (by decide) (by decide)
    · obtain rfl := Option.some.inj (turned.symm.trans foundAbove)
      exact ⟨by decide, by decide, fun entry member => nomatch member⟩
  exact ⟨found, legible, snapshot_eq_painted ⟨_, rfl⟩ found legible⟩

end Compositor

end LedMatrix
