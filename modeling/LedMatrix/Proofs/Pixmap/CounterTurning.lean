/-
# Turning the canvas or the source

A source can be laid over a canvas that has been turned, or it can be turned the other way
itself and be laid over the upright canvas. The panel cannot tell the two apart if the
corner at which the source is laid is taken along (`Source.cornerBehind`):
`draw_counterTurned` says that both leave the same memory.

The corner is the upper left one of what is laid. A turn makes another corner of the
source the upper left one, so the size of the source enters the new corner, and so does
that of the panel. Where the source overhangs an edge of the turned canvas, the turned
source overhangs another edge of the upright one.
-/

import LedMatrix.Proofs.Pixmap.Turning

namespace LedMatrix

namespace Source

/-- Where the upper left corner of a source comes to lie on an upright panel of the given
size, if the source lies at `(x, y)` of the panel turned by `rotation` and both are turned
back. -/
def cornerBehind (source : Source) (rotation : Rotation) (width height : Nat) (x y : Int) :
    Int × Int :=
  match rotation with
  | .upright => (x, y)
  | .quarter => (y, height - x - source.width)
  | .half => (width - x - source.width, height - y - source.height)
  | .threeQuarter => (width - y - source.height, x)

/-- Without mirrors a cell lands where the corner takes it. -/
theorem landsAt_none {source : Source} {x y : Int} {cell target : Nat × Nat} :
    source.LandsAt x y Flip.none cell target ↔
      cell.1 < source.width ∧ cell.2 < source.height ∧
        (target.1 : Int) = x + cell.1 ∧ (target.2 : Int) = y + cell.2 :=
  ⟨fun ⟨column_lt, row_lt, column_eq, row_eq⟩ => ⟨column_lt, row_lt, column_eq, row_eq⟩,
    fun ⟨column_lt, row_lt, column_eq, row_eq⟩ => ⟨column_lt, row_lt, column_eq, row_eq⟩⟩

end Source

namespace Pixmap

section Behind

variable {source : Source} {view : Pixmap} (copy : IsCopy source view) {o : Orientation}
  (plain : o.flip = Flip.none) (x y : Int)
include copy plain

/-- A cell of the turned source lands on the upright panel exactly where the cell of the
source that it shows lands on the turned one. -/
theorem landsAt_cornerBehind (cell : Nat × Nat) {ux uy : Nat} (hx : ux < o.physicalWidth)
    (hy : uy < o.physicalHeight) :
    (view.withRotation o.rotation.inverse Flip.none).toSource.LandsAt
        (source.cornerBehind o.rotation o.physicalWidth o.physicalHeight x y).1
        (source.cornerBehind o.rotation o.physicalWidth o.physicalHeight x y).2
        Flip.none cell (ux, uy) ↔
      cell.1 < (source.orientation o.rotation.inverse Flip.none).width ∧
        cell.2 < (source.orientation o.rotation.inverse Flip.none).height ∧
        source.LandsAt x y Flip.none
          ((source.orientation o.rotation.inverse Flip.none).physical cell.1 cell.2)
          (o.logical ux uy) := by
  have width : (view.withRotation o.rotation.inverse Flip.none).toSource.width =
      (source.orientation o.rotation.inverse Flip.none).width :=
    copy.width_withRotation o.rotation.inverse Flip.none
  have height : (view.withRotation o.rotation.inverse Flip.none).toSource.height =
      (source.orientation o.rotation.inverse Flip.none).height :=
    copy.height_withRotation o.rotation.inverse Flip.none
  obtain ⟨across, down⟩ := cell
  rw [Source.landsAt_none, Source.landsAt_none, width, height]
  -- What is left is one system of linear equations for each turn.
  cases turn : o.rotation <;>
    simp only [turn, plain, Orientation.physical, Orientation.logical, Source.cornerBehind,
      Orientation.width, Orientation.height, Source.orientation, Rotation.inverse,
      Rotation.isTransposed, Flip.none, Flip.column, Flip.row, if_true, Bool.false_eq_true,
      if_false] <;>
    omega

/-- The turned source shows in each cell of the panel what the source shows in the cell
of the turned canvas that lies there. -/
theorem seenAt_cornerBehind {ux uy : Nat} (hx : ux < o.physicalWidth)
    (hy : uy < o.physicalHeight) :
    (view.withRotation o.rotation.inverse Flip.none).toSource.seenAt
        (source.cornerBehind o.rotation o.physicalWidth o.physicalHeight x y).1
        (source.cornerBehind o.rotation o.physicalWidth o.physicalHeight x y).2
        Flip.none ux uy =
      source.seenAt x y Flip.none (o.logical ux uy).1 (o.logical ux uy).2 := by
  have lands_iff (cell : Nat × Nat) := landsAt_cornerBehind copy plain x y cell hx hy
  cases seen : (view.withRotation o.rotation.inverse Flip.none).toSource.seenAt _ _ _ _ _ with
  | some color =>
      obtain ⟨cell, lands⟩ := Source.exists_landsAt_of_seenAt seen
      obtain ⟨across, down, back⟩ := (lands_iff cell).mp lands
      have shows := lands.seenAt_eq.symm.trans seen
      rw [Pixmap.colorAt_toSource _ (by rwa [copy.width_withRotation])
        (by rwa [copy.height_withRotation]), copy.colorAt_withRotation _ _ across down] at shows
      exact (back.seenAt_eq.trans shows).symm
  | none =>
      cases shown : source.seenAt x y Flip.none (o.logical ux uy).1 (o.logical ux uy).2 with
      | none => rfl
      | some color =>
          -- The cell that lands here would be shown by the turned source as well.
          obtain ⟨cell, lands⟩ := Source.exists_landsAt_of_seenAt shown
          let grid := source.orientation o.rotation.inverse Flip.none
          have inside := grid.logical_lt lands.column_lt lands.row_lt
          have back := grid.physical_logical lands.column_lt lands.row_lt
          have turned := (lands_iff (grid.logical cell.1 cell.2)).mpr
            ⟨inside.1, inside.2, by rwa [back]⟩
          cases turned.seenAt_eq.symm.trans seen

end Behind

/-- **Turning the canvas is turning the source the other way.** A readable source that is
laid over a canvas turned by `rotation` leaves the memory that its copy, turned by the
inverse, leaves when it is laid over the upright canvas at the corner that lies behind
the turn. Both succeed, whatever the layout, the colours and the background of the
canvas, and wherever the corner lies. -/
theorem draw_counterTurned {source : Source} (readable : source.Readable) (rotation : Rotation)
    (x y : Int) (p : Pixmap) :
    ∃ view counter first second,
      (do setRotation rotation.degrees Flip.none
          draw source x y Flip.none : Edit Pixmap Unit) p = .ok () first ∧
      ofSource source = .ok view ∧
      setRotation rotation.inverse.degrees Flip.none view = .ok () counter ∧
      (do setRotation 0 Flip.none
          draw counter.toSource
            (source.cornerBehind rotation p.orientation.physicalWidth
              p.orientation.physicalHeight x y).1
            (source.cornerBehind rotation p.orientation.physicalWidth
              p.orientation.physicalHeight x y).2 Flip.none : Edit Pixmap Unit) p =
          .ok () second ∧
      second.memory = first.memory := by
  obtain ⟨view, copied, copy⟩ := ofSource_eq readable
  let turned := p.withRotation rotation Flip.none
  let upright := p.withRotation .upright Flip.none
  let corner := source.cornerBehind rotation p.orientation.physicalWidth
    p.orientation.physicalHeight x y
  obtain ⟨first, drawn, frame, shown⟩ := shown_draw readable x y Flip.none turned
  obtain ⟨second, drawnBehind, frameBehind, shownBehind⟩ :=
    shown_draw (copy.readable_withRotation rotation.inverse Flip.none readable)
      corner.1 corner.2 Flip.none upright
  refine ⟨view, _, first, second,
    (Edit.bind_of_ok (setRotation_degrees rotation Flip.none p)).trans drawn, copied,
    setRotation_degrees rotation.inverse Flip.none view,
    (Edit.bind_of_ok (setRotation_degrees .upright Flip.none p)).trans drawnBehind, ?_⟩
  have grid : second.orientation = first.orientation.withRotation .upright Flip.none := by
    rw [frame.orientation, frameBehind.orientation]
    rfl
  refine memory_eq_of_shown grid fun ux uy hx hy => ?_
  rw [frame.orientation] at hx hy
  have seen := seenAt_cornerBehind copy (o := turned.orientation) rfl x y hx hy
  rw [shown ux uy hx hy, ← seen]
  exact shownBehind ux uy hx hy

/-- A white panel of four columns and three rows that snakes and lets red pass. -/
def awning : Pixmap :=
  { (blank 4 3 .serpentine).fill .white with background := .pureRed, transparent := true }

/-- On the panel turned upside down the lower row of the pennant hangs over the bottom edge,
and its red corner is let through. The pennant that is turned itself hangs over the top
edge. Both times two places of the memory become black. -/
theorem draw_counterTurned_pennant :
    pennant.toSource.Readable ∧
    ∃ view counter first second,
      (do setRotation 180 Flip.none
          draw pennant.toSource 1 2 Flip.none : Edit Pixmap Unit) awning = .ok () first ∧
      ofSource pennant.toSource = .ok view ∧
      setRotation 180 Flip.none view = .ok () counter ∧
      (do setRotation 0 Flip.none
          draw counter.toSource 0 (-1) Flip.none : Edit Pixmap Unit) awning = .ok () second ∧
      second.memory = first.memory ∧
      first.memory = #[.black, .black] ++ Array.replicate 10 .white := by
  have readable : pennant.toSource.Readable := pennant.readable_toSource (by decide) (by decide)
  obtain ⟨view, counter, first, second, drawn, copied, turned, drawnBehind, same⟩ :=
    draw_counterTurned readable .half 1 2 awning
  refine ⟨readable, view, counter, first, second, drawn, copied, turned, drawnBehind, same, ?_⟩
  rw [← Edit.after_of_ok drawn]
  decide

end Pixmap

end LedMatrix
