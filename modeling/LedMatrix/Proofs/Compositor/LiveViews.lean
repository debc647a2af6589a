/-
# Live views and their copies

A window can be painted in two ways. The demo paints the window itself, with every cell read at the
moment it is painted; painting a window onto another one takes a copy first, reads the cells in
another order and only then paints. `draw_live_eq_draw_copy` says that nobody can tell the two apart,
for windows and for any other source, as long as the cells can be read. Where some cannot, there is
no copy, and the report is that of the first of them.

How far a painting gets that comes to such a cell is another matter, since it does not ask for all
cells and may end later or not at all.
-/

import LedMatrix.Proofs.Compositor.Flattening
import LedMatrix.Proofs.Pixmap.Turning

namespace LedMatrix

/-- A cell that a source claims to have. -/
def Source.Claims (source : Source) (cell : Nat × Nat) : Prop :=
  cell.1 < source.width ∧ cell.2 < source.height

variable {source : Source}

namespace Pixmap

/-- A copy shows the cells of the source. -/
theorem IsCopy.showsCells {copy : Pixmap} (isCopy : IsCopy source copy)
    (readable : source.Readable) : ShowsCells source copy where
  width := isCopy.width_eq
  height := isCopy.height_eq
  pixel x y hx hy := by
    rw [readable.pixel_eq hx hy, ← isCopy.colorAt x y hx hy]
    exact copy.pixel_of_lt (by rwa [isCopy.width_eq]) (by rwa [isCopy.height_eq])

/-- A copy fails exactly where a first cell fails. -/
theorem ofSource_eq_error_iff_firstFailure {cause : CanvasError} :
    ofSource source = .error cause ↔ ∃ cell, source.FirstFailure source.Claims cause cell :=
  ofSource_eq_error_iff.trans
    (Source.failsOn_iff_exists_firstFailure (pairwise_cells source.width source.height)
      fun _ => mem_cells)

/-- A source is painted as its copy is, whatever it is painted on. -/
theorem IsCopy.exists_yields {copy : Pixmap} (isCopy : IsCopy source copy)
    (readable : source.Readable) (x y : Int) (flip : Flip) (p : Pixmap) :
    ∃ painted, Yields (draw source x y flip) p (.ok ()) painted ∧
      Yields (draw copy.toSource x y flip) p (.ok ()) painted := by
  obtain ⟨painted, drawn, -⟩ := Pixmap.draw_eq readable x y flip p
  exact ⟨painted, yields_of_ok drawn,
    yields_of_ok ((isCopy.draw_eq readable x y flip p).trans drawn)⟩

end Pixmap

namespace Compositor

variable {c : Compositor}

theorem snapshot_of_view {id : WindowId} (seen : c.view id = .ok source) :
    c.snapshot id = Pixmap.ofSource source := by
  rw [snapshot, seen]
  rfl

/-- Painting a window that can be read onto another one is painting its live view. -/
theorem drawWindow_of_view {id : WindowId} (seen : c.view id = .ok source)
    (readable : source.Readable) (target : WindowId) (x y : Int) (flip : Flip) :
    drawWindow target id x y flip c = paint target (Pixmap.draw source x y flip) c := by
  obtain ⟨copy, copied, isCopy⟩ := Pixmap.ofSource_eq readable
  have same : Pixmap.draw copy.toSource x y flip = Pixmap.draw source x y flip :=
    funext fun p => isCopy.draw_eq readable x y flip p
  rw [drawWindow_eq, snapshot_of_view seen, copied]
  dsimp only
  rw [same]

/-- **Painting a live view is painting its copy.** A source of a size that fits, all of whose cells
can be read, can be copied. The copy is upright, not mirrored, in raster order and not see-through,
has the size, the background and the cells of the source, and is its own copy. Laid at any corner,
with any mirrors, the source and its copy do the same to every picture, strip and window. If some
cells cannot be read there is no copy, and the report is that of the first of these in row-major
order. In particular, a window is painted onto another one as its live view is. -/
theorem draw_live_eq_draw_copy {source : Source} (width : source.width < lengthLimit)
    (height : source.height < lengthLimit) :
    ((∀ cell, source.Claims cell → ∃ color, source.pixel cell.1 cell.2 = .ok color) →
      ∃ copy, Pixmap.ofSource source = .ok copy ∧ Pixmap.IsCopy source copy ∧
        Pixmap.ShowsCells source copy ∧ Pixmap.ofSource copy.toSource = .ok copy ∧
        ∀ x y flip p, ∃ painted,
          Pixmap.Yields (Pixmap.draw source x y flip) p (.ok ()) painted ∧
          Pixmap.Yields (Pixmap.draw copy.toSource x y flip) p (.ok ()) painted) ∧
    (∀ cell cause, source.Claims cell → source.pixel cell.1 cell.2 = .error cause →
      ∃ reported first, Pixmap.ofSource source = .error reported ∧
        source.FirstFailure source.Claims reported first) ∧
    (∀ cause, Pixmap.ofSource source = .error cause ↔
      ∃ cell, source.FirstFailure source.Claims cause cell) ∧
    ∀ (c : Compositor) id, c.view id = .ok source →
      c.snapshot id = Pixmap.ofSource source ∧
      ((∀ cell, source.Claims cell → ∃ color, source.pixel cell.1 cell.2 = .ok color) →
        ∀ target x y flip,
          drawWindow target id x y flip c = paint target (Pixmap.draw source x y flip) c) := by
  have readable (read : ∀ cell, source.Claims cell →
      ∃ color, source.pixel cell.1 cell.2 = .ok color) : source.Readable :=
    ⟨width, height, fun x y hx hy => read (x, y) ⟨hx, hy⟩⟩
  refine ⟨fun read => ?_, fun cell cause claimed failed => ?_, fun cause => ?_,
    fun c id seen => ⟨snapshot_of_view seen, fun read => ?_⟩⟩
  · obtain ⟨copy, copied, isCopy⟩ := Pixmap.ofSource_eq (readable read)
    exact ⟨copy, copied, isCopy, isCopy.showsCells (readable read),
      isCopy.ofSource_toSource (readable read), isCopy.exists_yields (readable read)⟩
  · obtain ⟨reported, first, isFirst⟩ :=
      Source.exists_firstFailure (pairwise_cells source.width source.height) (fun _ => mem_cells)
        claimed failed
    exact ⟨reported, first, Pixmap.ofSource_eq_error_iff_firstFailure.mpr ⟨first, isFirst⟩, isFirst⟩
  · exact Pixmap.ofSource_eq_error_iff_firstFailure
  · exact drawWindow_of_view seen (readable read)

/-- A window of two cells that hangs on its side, with a red cell of its own at one end and a window
that covers the other end with blue. -/
def hanging : Compositor :=
  run [.createWindow 2 1, .paint ⟨0, 0⟩ (Pixmap.perform (.setPixel 0 0 .pureRed)),
    .paint ⟨0, 0⟩ (Pixmap.perform (.rotate 90 Flip.none)),
    .createChild ⟨0, 0⟩ 0 1 1 1, .paint ⟨1, 0⟩ (Pixmap.perform (.fill .pureBlue))]

/-- The window is one cell wide and two cells high, and so is its copy; over the edge of a canvas and
mirrored, both leave the same behind. A tile that claims a cell too much cannot be copied. -/
theorem draw_live_eq_draw_copy_hanging :
    hanging.Reachable ∧
    (∃ view copy, hanging.view ⟨0, 0⟩ = .ok view ∧ view.width = 1 ∧ view.height = 2 ∧
      view.width < lengthLimit ∧ view.height < lengthLimit ∧
      (∀ cell, view.Claims cell → ∃ color, view.pixel cell.1 cell.2 = .ok color) ∧
      Pixmap.ofSource view = .ok copy ∧ hanging.snapshot ⟨0, 0⟩ = .ok copy ∧
      copy.pixel 0 0 = .ok .pureRed ∧ copy.pixel 0 1 = .ok .pureBlue ∧
      ∃ painted,
        Pixmap.Yields (Pixmap.draw view 1 (-1) { y := true }) (Pixmap.blank 2 1) (.ok ()) painted ∧
        Pixmap.Yields (Pixmap.draw copy.toSource 1 (-1) { y := true }) (Pixmap.blank 2 1) (.ok ())
          painted) ∧
    tornTile.width < lengthLimit ∧ tornTile.height < lengthLimit ∧
    Pixmap.ofSource tornTile = .error (.outOfRange 1 0 1 1) := by
  let view : Source := { width := 1, height := 2, pixel := hanging.pixel ⟨0, 0⟩ }
  have seen : hanging.view ⟨0, 0⟩ = .ok view := rfl
  have width : view.width < lengthLimit := by decide
  have height : view.height < lengthLimit := by decide
  have above : view.pixel 0 0 = .ok .pureRed := by decide
  have below : view.pixel 0 1 = .ok .pureBlue := by decide
  have read : ∀ cell, view.Claims cell → ∃ color, view.pixel cell.1 cell.2 = .ok color := by
    rintro ⟨column, row⟩ ⟨hx, hy⟩
    obtain rfl : column = 0 := Nat.lt_one_iff.mp hx
    rcases Nat.le_one_iff_eq_zero_or_eq_one.mp (Nat.lt_succ_iff.mp hy) with rfl | rfl
    · exact ⟨_, above⟩
    · exact ⟨_, below⟩
  obtain ⟨copies, -, -, windows⟩ := draw_live_eq_draw_copy width height
  obtain ⟨copy, copied, -, shows, -, alike⟩ := copies read
  have widthTorn : tornTile.width < lengthLimit := by decide
  have heightTorn : tornTile.height < lengthLimit := by decide
  obtain ⟨-, -, refused, -⟩ := draw_live_eq_draw_copy widthTorn heightTorn
  have first : tornTile.FirstFailure tornTile.Claims (.outOfRange 1 0 1 1) (1, 0) := by
    refine ⟨⟨by decide, by decide⟩, rfl, fun cell _ before => ?_⟩
    obtain rfl : cell = (0, 0) := by
      unfold Before at before
      exact Prod.ext (by omega) (by omega)
    exact ⟨.black, rfl⟩
  refine ⟨⟨_, rfl⟩, ⟨view, copy, seen, rfl, rfl, width, height, read, copied,
    (windows hanging ⟨0, 0⟩ seen).1.trans copied, ?_, ?_, alike 1 (-1) { y := true } _⟩, widthTorn,
    heightTorn, (refused _).mpr ⟨_, first⟩⟩
  · exact (shows.pixel 0 0 (by decide) (by decide)).trans above
  · exact (shows.pixel 0 1 (by decide) (by decide)).trans below

end Compositor

end LedMatrix
