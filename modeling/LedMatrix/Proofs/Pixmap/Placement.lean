/-
# The exact law of painting

Laying a source over a picture gives each cell the colour of the one cell of the
source that lands there, unless the picture is see-through and the colour is its
background; a cell on which none lands keeps what it has. `IsLaidOver` says so with the
reports of reading, and `draw_exact` proves it of every canvas and every corner. A
strip and a window pass on what is done to their canvas (`Yields`).

The rest is about the arithmetic on the way. `Pixmap.checkedTarget?` finds the place
in memory that a source cell is laid over operation by operation, on signed numbers
of 64 bits for the distances and on words for the place, and gives up as soon as a
result does not fit. It never gives up for canvases and sources of sizes that fit,
however far from the canvas the source is laid.
-/

import LedMatrix.Proofs.Compositor.Edits
import LedMatrix.Proofs.Pixmap.Drawing
import LedMatrix.Strip.Basic

namespace LedMatrix

/-! ## Arithmetic on the way

Distances are worked out in signed numbers of 64 bits. Corners are signed numbers of
32 bits and may lie anywhere among them, so every sum has room to spare. -/

/-- A corner at which a source may be laid: a signed number of 32 bits. -/
def IsCoordinate (x : Int) : Prop := -(lengthLimit : Int) ≤ x ∧ x < lengthLimit

instance (x : Int) : Decidable (IsCoordinate x) := inferInstanceAs (Decidable (_ ∧ _))

/-- A signed number of 64 bits, if it is one. -/
def signed? (n : Int) : Option Int :=
  if -0x8000000000000000 ≤ n ∧ n < 0x8000000000000000 then some n else none

/-- Where position `s` of a source of the given length comes to lie along one axis,
operation by operation. -/
def checkedLanding? (length : Nat) (corner : Int) (mirrored : Bool) (s : Nat) : Option Int := do
  let own ←
    if mirrored then do
      let rest ← signed? (length - s)
      signed? (rest - 1)
    else some s
  signed? (corner + own)

theorem checkedLanding?_eq {length s : Nat} {corner : Int} (fits : length < lengthLimit)
    (inside : s < length) (near : IsCoordinate corner) (mirrored : Bool) :
    checkedLanding? length corner mirrored s = some (corner + offset length mirrored s) := by
  obtain ⟨left, right⟩ := near
  unfold lengthLimit at fits left right
  have room {n : Int} (low : -0x100000000 ≤ n) (high : n < 0x100000000) : signed? n = some n :=
    if_pos ⟨by omega, by omega⟩
  cases mirrored with
  | false =>
      have landing := room (n := corner + s) (by omega) (by omega)
      simpa [checkedLanding?, offset] using landing
  | true =>
      have rest := room (n := length - s) (by omega) (by omega)
      have own := room (n := length - s - 1) (by omega) (by omega)
      have landing := room (n := corner + (length - s - 1)) (by omega) (by omega)
      have mirror : ((length - 1 - s : Nat) : Int) = length - s - 1 := by omega
      simp [checkedLanding?, offset, rest, own, landing, mirror]

namespace Pixmap

/-- The place in memory that a cell of a source is laid over, worked out operation by
operation in the order of painting: the row comes first, and a row that misses the
canvas is left before the column is looked at. Cells that miss the canvas have no
place, which is no failure; the inner `none` tells them from the outer one. -/
def checkedTarget? (p : Pixmap) (source : Source) (x y : Int) (flip : Flip) (cell : Nat × Nat) :
    Option (Option Nat) := do
  let down ← checkedLanding? source.height y flip.y cell.2
  if 0 ≤ down ∧ down < p.height then
    let across ← checkedLanding? source.width x flip.x cell.1
    if 0 ≤ across ∧ across < p.width then
      let (column, row) ← (cellAt (coordinate across) (coordinate down) p.width p.height).toOption
      let place ← p.orientation.checkedPlace? column row
      return some place
    else return none
  else return none

/-- A grid whose sides fit has fewer cells than there are places. -/
theorem area_lt_placeLimit {p : Pixmap} (width : p.width < lengthLimit)
    (height : p.height < lengthLimit) : p.orientation.area < Layout.placeLimit := by
  have sides : p.orientation.area = p.width * p.height := by
    unfold Orientation.area Pixmap.width Pixmap.height Orientation.width Orientation.height
    split
    · exact Nat.mul_comm _ _
    · rfl
  rw [sides]
  exact (Nat.mul_lt_mul'' width height).trans (by decide)

section Arithmetic

variable {p : Pixmap} (width : p.width < lengthLimit) (height : p.height < lengthLimit)
  {source : Source} (readable : source.Readable) {x y : Int} (hx : IsCoordinate x)
  (hy : IsCoordinate y) {flip : Flip} {cell : Nat × Nat}
include width height readable hx hy

/-- A cell that lands on the canvas is laid over the place of the cell where it
lands. -/
theorem checkedTarget?_of_landsAt {column row : Nat} (hc : column < p.width)
    (hr : row < p.height) (lands : source.LandsAt x y flip cell (column, row)) :
    p.checkedTarget? source x y flip cell = some (some (p.orientation.index column row)) := by
  have across := checkedLanding?_eq readable.width_lt lands.column_lt hx flip.x
  have down := checkedLanding?_eq readable.height_lt lands.row_lt hy flip.y
  rw [← lands.column_eq] at across
  rw [← lands.row_eq] at down
  have place : p.orientation.checkedPlace? column row = some (p.orientation.index column row) := by
    rw [p.orientation.checkedPlace?_eq_place?]
    exact p.orientation.place?_eq_index hc hr (Nat.le_of_lt (area_lt_placeLimit width height))
  simp [checkedTarget?, across, down, hc, hr, coordinate_of_lt (hc.trans width),
    coordinate_of_lt (hr.trans height), cellAt_of_lt hc hr, Except.toOption, place]

/-- **No arithmetic overflows.** The place of every cell of the source can be worked
out, and cells have one exactly if they land on the canvas. -/
theorem exists_checkedTarget? (inside : cell.1 < source.width ∧ cell.2 < source.height) :
    ∃ target, p.checkedTarget? source x y flip cell = some target ∧
      ∀ place, target = some place ↔ ∃ column row, column < p.width ∧ row < p.height ∧
        source.LandsAt x y flip cell (column, row) ∧ place = p.orientation.index column row := by
  by_cases onto : ∃ column row, column < p.width ∧ row < p.height ∧
      source.LandsAt x y flip cell (column, row)
  · obtain ⟨column, row, hc, hr, lands⟩ := onto
    refine ⟨_, checkedTarget?_of_landsAt width height readable hx hy hc hr lands, fun place => ?_⟩
    constructor
    · rintro ⟨⟩
      exact ⟨column, row, hc, hr, lands, rfl⟩
    · rintro ⟨column', row', hc', hr', lands', rfl⟩
      have := lands.column_eq.trans lands'.column_eq.symm
      have := lands.row_eq.trans lands'.row_eq.symm
      obtain rfl : column = column' := by omega
      obtain rfl : row = row' := by omega
      rfl
  · refine ⟨none, ?_, fun place => ?_⟩
    · have across := checkedLanding?_eq readable.width_lt inside.1 hx flip.x
      have down := checkedLanding?_eq readable.height_lt inside.2 hy flip.y
      have missed : ¬ ((0 ≤ y + offset source.height flip.y cell.2 ∧
            y + offset source.height flip.y cell.2 < p.height) ∧
          (0 ≤ x + offset source.width flip.x cell.1 ∧
            x + offset source.width flip.x cell.1 < p.width)) := by
        rintro ⟨⟨above, below⟩, left, right⟩
        refine onto ⟨(x + offset source.width flip.x cell.1).toNat,
          (y + offset source.height flip.y cell.2).toNat, by omega, by omega,
          inside.1, inside.2, ?_, ?_⟩
        · exact Int.toNat_of_nonneg left
        · exact Int.toNat_of_nonneg above
      unfold checkedTarget?
      simp only [down, across, Option.bind_eq_bind, Option.bind_some]
      split
      · rename_i row
        rw [if_neg fun column => missed ⟨row, column⟩]
        rfl
      · rfl
    · constructor
      · rintro ⟨⟩
      · rintro ⟨column, row, hc, hr, lands, -⟩
        exact absurd ⟨column, row, hc, hr, lands⟩ onto

end Arithmetic

/-! ## Canvases of strips and windows -/

/-- Painted on a picture, on a strip that has it for a canvas, or on a window that has it, an edit
gives this answer and leaves this picture behind, and nothing else of the strip or of the windows
has changed. -/
structure Yields (edit : Edit Pixmap Unit) (p : Pixmap) (answer : Except CanvasError Unit)
    (left : Pixmap) : Prop where
  canvas : edit.answer p = answer ∧ edit.after p = left
  strip : ∀ (δ : Type) (strip : Strip δ), strip.picture = p →
    (Strip.paint edit).answer strip = answer ∧
      (Strip.paint edit).after strip = { strip with picture := left }
  window : ∀ (c : Compositor) id window, c.find? id = some window → window.buffer = p →
    (Compositor.paint id edit).answer c = answer ∧
      (Compositor.paint id edit).after c = c.update id fun window => { window with buffer := left }

/-- Strips and windows pass on what an edit does to their canvas. -/
theorem yields (edit : Edit Pixmap Unit) (p : Pixmap) :
    Yields edit p (edit.answer p) (edit.after p) where
  canvas := ⟨rfl, rfl⟩
  strip δ strip picture := by
    subst picture
    unfold Edit.answer Edit.after Strip.paint Edit.within
    cases edit strip.picture <;> exact ⟨rfl, rfl⟩
  window c id window found buffer := by
    subst buffer
    unfold Edit.answer Edit.after
    rw [Compositor.paint_eq, found]
    dsimp only
    cases edit window.buffer <;> exact ⟨rfl, rfl⟩

theorem yields_of_ok {edit : Edit Pixmap Unit} {p left : Pixmap} (run : edit p = .ok () left) :
    Yields edit p (.ok ()) left := by
  have outcome := yields edit p
  rwa [Edit.answer_of_ok run, Edit.after_of_ok run] at outcome

theorem yields_of_error {edit : Edit Pixmap Unit} {p left : Pixmap} {cause : CanvasError}
    (run : edit p = .error cause left) : Yields edit p (.error cause) left := by
  have outcome := yields edit p
  rwa [Edit.answer_of_error run, Edit.after_of_error run] at outcome

/-! ## The exact law -/

/-- A picture `q` is the picture `p` after a source has been laid over it at
`(x, y)`. -/
structure IsLaidOver (source : Source) (x y : Int) (flip : Flip) (p q : Pixmap) : Prop where
  orientation : q.orientation = p.orientation
  background : q.background = p.background
  transparent : q.transparent = p.transparent
  /-- At most one cell of the source lands on a cell, which then has its colour, unless
  the picture is see-through and this is the picture's own background. -/
  landed : ∀ column row, column < p.width → row < p.height →
    ∀ cell, source.LandsAt x y flip cell (column, row) →
      (∀ other, source.LandsAt x y flip other (column, row) → other = cell) ∧
      ∃ color, source.pixel cell.1 cell.2 = .ok color ∧
        q.pixel column row =
          if p.transparent ∧ color = p.background then p.pixel column row else .ok color
  /-- All other cells keep their colour. -/
  missed : ∀ column row, column < p.width → row < p.height →
    (¬ ∃ cell, source.LandsAt x y flip cell (column, row)) →
      q.pixel column row = p.pixel column row

/-- Painting lays the source over the picture. -/
theorem exists_isLaidOver {source : Source} (readable : source.Readable) (x y : Int) (flip : Flip)
    (p : Pixmap) : ∃ q, draw source x y flip p = .ok () q ∧ IsLaidOver source x y flip p q := by
  obtain ⟨q, drawn, same, shows⟩ := draw_eq readable x y flip p
  have pixel_eq {column row : Nat} (hc : column < p.width) (hr : row < p.height) :
      q.pixel column row =
        .ok (p.under (p.colorAt column row) (source.seenAt x y flip column row)) := by
    rw [same.pixel_of_lt hc hr, shows column row hc hr]
  refine ⟨q, drawn, same.orientation, same.background, same.transparent, ?_, ?_⟩
  · intro column row hc hr cell lands
    refine ⟨fun other lands' => lands.unique lands', source.colorAt cell.1 cell.2,
      readable.pixel_eq lands.column_lt lands.row_lt, ?_⟩
    have seen : source.seenAt x y flip column row = some (source.colorAt cell.1 cell.2) :=
      lands.seenAt_eq
    rw [pixel_eq hc hr, seen, p.pixel_of_lt hc hr, under]
    split <;> rfl
  · intro column row hc hr missed
    have unseen : source.seenAt x y flip column row = none := by
      cases seen : source.seenAt x y flip column row with
      | none => rfl
      | some color => exact absurd (Source.exists_landsAt_of_seenAt seen) missed
    rw [pixel_eq hc hr, unseen, under_none, p.pixel_of_lt hc hr]

/-- **The exact law of painting.** On a canvas of a size that fits, whatever its
wiring, turn, mirrors and background, a readable source can be laid at every corner
and with every mirror: no arithmetic on the way overflows, the painting succeeds, and
the source is laid over what was there. This holds for a canvas by itself, for that of
a strip and for that of a window. -/
theorem draw_exact {source : Source} (readable : source.Readable) {p : Pixmap}
    (width : p.width < lengthLimit) (height : p.height < lengthLimit) {x y : Int}
    (hx : IsCoordinate x) (hy : IsCoordinate y) (flip : Flip) :
    (∀ cell : Nat × Nat, cell.1 < source.width → cell.2 < source.height →
      coordinate cell.1 = cell.1 ∧ coordinate cell.2 = cell.2 ∧
      ∃ target, p.checkedTarget? source x y flip cell = some target ∧
        ∀ place, target = some place ↔ ∃ column row, column < p.width ∧ row < p.height ∧
          source.LandsAt x y flip cell (column, row) ∧
          place = p.orientation.index column row) ∧
    ∃ q, IsLaidOver source x y flip p q ∧ draw source x y flip p = .ok () q ∧
      (∀ (δ : Type) (strip : Strip δ), strip.picture = p →
        Strip.paint (draw source x y flip) strip = .ok () { strip with picture := q }) ∧
      ∀ (c : Compositor) id window, c.find? id = some window → window.buffer = p →
        Compositor.paint id (draw source x y flip) c =
          .ok () (c.update id fun window => { window with buffer := q }) := by
  constructor
  · intro cell across down
    exact ⟨coordinate_of_lt (across.trans readable.width_lt),
      coordinate_of_lt (down.trans readable.height_lt),
      exists_checkedTarget? width height readable hx hy ⟨across, down⟩⟩
  · obtain ⟨q, drawn, laid⟩ := exists_isLaidOver readable x y flip p
    refine ⟨q, laid, drawn, fun δ strip picture => ?_, fun c id window found buffer => ?_⟩
    · rw [Strip.paint, Edit.within, picture, drawn]
    · rw [Compositor.paint_eq, found]
      dsimp only
      rw [buffer, drawn]

/-- A see-through canvas of two columns and three rows on a snaking panel that hangs
on its side, with one white cell. -/
def easel : Pixmap :=
  { (blank 3 2 .serpentine).withRotation .quarter { x := true } with
    background := .pureRed, transparent := true }.recolor 0 1 .white

/-- A square with the background of the easel in its upper left corner. -/
def patch : Pixmap := ((blank 2 2).recolor 0 0 .pureRed).recolor 0 1 .pureBlue

/-- Over the left edge and mirrored, the square shows its left column: above, the easel
shines through, and below it is covered. The right column stays as it is. -/
theorem draw_exact_patch :
    patch.toSource.Readable ∧ easel.width < lengthLimit ∧ easel.height < lengthLimit ∧
    IsCoordinate (-1) ∧ IsCoordinate 1 ∧
    ∃ q, draw patch.toSource (-1) 1 { x := true } easel = .ok () q ∧
      q.pixel 0 1 = .ok .white ∧ q.pixel 0 2 = .ok .pureBlue ∧ q.pixel 1 1 = .ok .black := by
  have readable : patch.toSource.Readable := patch.readable_toSource (by decide) (by decide)
  have width : easel.width < lengthLimit := by decide
  have height : easel.height < lengthLimit := by decide
  obtain ⟨-, q, laid, drawn, -, -⟩ :=
    draw_exact readable width height (show IsCoordinate (-1) by decide)
      (show IsCoordinate 1 by decide) { x := true }
  refine ⟨readable, width, height, by decide, by decide, q, drawn, ?_, ?_, ?_⟩
  · obtain ⟨color, read, covers⟩ := (laid.landed 0 1 (by decide) (by decide) (0, 0)
      ⟨by decide, by decide, by decide, by decide⟩).2
    obtain rfl := Except.ok.inj read
    exact covers.trans (by decide)
  · obtain ⟨color, read, covers⟩ := (laid.landed 0 2 (by decide) (by decide) (0, 1)
      ⟨by decide, by decide, by decide, by decide⟩).2
    obtain rfl := Except.ok.inj read
    exact covers.trans (by decide)
  · refine (laid.missed 1 1 (by decide) (by decide) ?_).trans (by decide)
    rintro ⟨cell, lands⟩
    have inside := lands.column_lt
    have across := lands.column_eq
    change cell.1 < 2 at inside
    change (1 : Int) = -1 + (2 - 1 - cell.1 : Nat) at across
    omega

end Pixmap

end LedMatrix
