/-
# Paintings that come to an end half-way

A source may fail at any of its cells. A painting that comes to such a cell ends there, with the
report of the cell, and what has been painted by then stays. Mirrors do not matter for how far it
gets: the cells are gone through in the row-major order of the source, and those that land beside
the canvas are not asked for.

`draw_interrupted` says so of all sources of a size that fits. What is left behind is described cell
by cell (`IsLaidInPart`), for a painting that ends early and for one that does not.
-/

import LedMatrix.Proofs.Pixmap.Placement

namespace LedMatrix.Pixmap

/-- A cell of a source that is laid at `(x, y)` lands inside the picture. -/
def OnCanvas (p : Pixmap) (source : Source) (x y : Int) (flip : Flip) (cell : Nat × Nat) : Prop :=
  ∃ target : Nat × Nat, target.1 < p.width ∧ target.2 < p.height ∧
    source.LandsAt x y flip cell target

theorem OnCanvas.lt {p : Pixmap} {source : Source} {x y : Int} {flip : Flip} {cell : Nat × Nat}
    (among : p.OnCanvas source x y flip cell) : cell.1 < source.width ∧ cell.2 < source.height := by
  obtain ⟨_, -, -, lands⟩ := among
  exact ⟨lands.column_lt, lands.row_lt⟩

/-- The picture `q` is the picture `p` after some cells of a source have been laid over it, and no
others. -/
structure IsLaidInPart (laid : Nat × Nat → Prop) (source : Source) (x y : Int) (flip : Flip)
    (p q : Pixmap) : Prop where
  frame : SameFrame p q
  landed : ∀ column row, column < p.width → row < p.height → ∀ cell, laid cell →
    source.LandsAt x y flip cell (column, row) →
      ∃ color, source.pixel cell.1 cell.2 = .ok color ∧
        q.pixel column row =
          if p.transparent ∧ color = p.background then p.pixel column row else .ok color
  missed : ∀ column row, column < p.width → row < p.height →
    (∀ cell, laid cell → ¬ source.LandsAt x y flip cell (column, row)) →
      q.pixel column row = p.pixel column row

/-- There is one such picture only. -/
theorem IsLaidInPart.unique {laid : Nat × Nat → Prop} {source : Source} {x y : Int} {flip : Flip}
    {p q r : Pixmap} (first : IsLaidInPart laid source x y flip p q)
    (second : IsLaidInPart laid source x y flip p r) : r = q := by
  have frame : SameFrame q r := first.frame.symm.trans second.frame
  refine frame.eq_of_colorAt fun column row hx hy => ?_
  rw [first.frame.width_eq] at hx
  rw [first.frame.height_eq] at hy
  have same : r.pixel column row = q.pixel column row := by
    by_cases covered : ∃ cell, laid cell ∧ source.LandsAt x y flip cell (column, row)
    · obtain ⟨cell, isLaid, lands⟩ := covered
      obtain ⟨color, read, once⟩ := first.landed column row hx hy cell isLaid lands
      obtain ⟨color', read', again⟩ := second.landed column row hx hy cell isLaid lands
      obtain rfl := Except.ok.inj (read.symm.trans read')
      exact again.trans once.symm
    · have missed : ∀ cell, laid cell → ¬ source.LandsAt x y flip cell (column, row) :=
        fun cell isLaid lands => covered ⟨cell, isLaid, lands⟩
      exact (second.missed column row hx hy missed).trans
        (first.missed column row hx hy missed).symm
  rw [first.frame.pixel_of_lt hx hy, second.frame.pixel_of_lt hx hy] at same
  exact Except.ok.inj same

theorem IsLaidInPart.iff_eq {laid : Nat × Nat → Prop} {source : Source} {x y : Int} {flip : Flip}
    {p left : Pixmap} (isLaid : IsLaidInPart laid source x y flip p left) (q : Pixmap) :
    IsLaidInPart laid source x y flip p q ↔ q = left := by
  constructor
  · exact isLaid.unique
  · rintro rfl
    exact isLaid

section Fitting

variable {source : Source} (width : source.width < lengthLimit)
  (height : source.height < lengthLimit) {x y : Int} {flip : Flip} {p : Pixmap}
include width height

/-- The cells that are painted are those that land inside the picture. -/
theorem mem_landingCells_iff_onCanvas (cell : Nat × Nat) :
    cell ∈ p.landingCells source x y flip ↔ p.OnCanvas source x y flip cell := by
  constructor
  · intro member
    obtain ⟨hx, hy⟩ := landsOn_lt member
    exact ⟨_, hx, hy, landsAt_landsOn member⟩
  · rintro ⟨target, hx, hy, lands⟩
    exact mem_landingCells_of_landsAt width height hx hy lands

/-- Laying cells that can be read lays these and no others. -/
theorem isLaidInPart_layAll {laid : Nat × Nat → Prop} {listed : List (Nat × Nat)}
    (lists : ∀ cell, cell ∈ listed ↔ p.OnCanvas source x y flip cell ∧ laid cell)
    (read : ∀ cell ∈ listed, ∃ color, source.pixel cell.1 cell.2 = .ok color) :
    IsLaidInPart laid source x y flip p (p.layAll (strokes source x y flip listed)) := by
  have painted : ∀ cell ∈ listed, cell ∈ p.landingCells source x y flip := fun cell member =>
    (mem_landingCells_iff_onCanvas width height cell).mpr ((lists cell).mp member).1
  have frame := p.sameFrame_layAll (strokes source x y flip listed)
  refine ⟨frame, fun column row hx hy cell isLaid lands => ?_, fun column row hx hy missed => ?_⟩
  · have member : cell ∈ listed := (lists cell).mpr ⟨⟨(column, row), hx, hy, lands⟩, isLaid⟩
    refine ⟨_, Source.pixel_eq_colorAt (read cell member), ?_⟩
    rw [frame.pixel_of_lt hx hy, colorAt_layAll_of_landsAt painted hx hy member lands,
      p.pixel_of_lt hx hy, under]
    split <;> rfl
  · rw [frame.pixel_of_lt hx hy, p.pixel_of_lt hx hy, colorAt_layAll_of_missed painted hx hy]
    exact fun cell member => missed cell ((lists cell).mp member).2

/-- A painting is carried through if none of the cells that land inside the picture fails. -/
theorem draw_of_read
    (read : ∀ cell, p.OnCanvas source x y flip cell →
      ∃ color, source.pixel cell.1 cell.2 = .ok color) :
    ∃ left, draw source x y flip p = .ok () left ∧
      IsLaidInPart (fun _ => True) source x y flip p left := by
  have lists (cell : Nat × Nat) : cell ∈ p.landingCells source x y flip ↔
      p.OnCanvas source x y flip cell := mem_landingCells_iff_onCanvas width height cell
  have readable : ∀ cell ∈ p.landingCells source x y flip, ∃ color,
      source.pixel cell.1 cell.2 = .ok color := fun cell member => read cell ((lists cell).mp member)
  refine ⟨_, paintCells_eq width height (fun cell member => lt_of_mem_landingCells member) readable p,
    isLaidInPart_layAll width height (fun cell => ?_) readable⟩
  rw [lists, and_true]

/-- A painting ends at the first cell that fails, with the cells before it laid. -/
theorem draw_of_firstFailure {cause : CanvasError} {cell : Nat × Nat}
    (first : source.FirstFailure (p.OnCanvas source x y flip) cause cell) :
    ∃ left, draw source x y flip p = .error cause left ∧
      IsLaidInPart (Before · cell) source x y flip p left := by
  obtain ⟨earlier, later, cut, before, read⟩ :=
    first.exists_append (p.pairwise_landingCells source x y flip)
      (mem_landingCells_iff_onCanvas width height)
  obtain ⟨hx, hy⟩ := first.isAsked.lt
  have failed : source.pixel (coordinate cell.1) (coordinate cell.2) = .error cause :=
    (Source.pixel_coordinate width height hx hy).trans first.failed
  refine ⟨p.layAll (strokes source x y flip earlier), ?_,
    isLaidInPart_layAll width height before read⟩
  change paintCells source x y flip (p.landingCells source x y flip) p = _
  rw [cut, paintCells_append width height
    (fun other member => ((before other).mp member).1.lt) read]
  exact paintCells_cons_of_error _ failed

/-- Where cells that land inside the picture fail, one of them is the first. -/
theorem exists_firstFailure_of_onCanvas {cause : CanvasError} {cell : Nat × Nat}
    (among : p.OnCanvas source x y flip cell) (failed : source.pixel cell.1 cell.2 = .error cause) :
    ∃ reported first, source.FirstFailure (p.OnCanvas source x y flip) reported first :=
  Source.exists_firstFailure (p.pairwise_landingCells source x y flip)
    (mem_landingCells_iff_onCanvas width height) among failed

/-- A painting that ends early has come to a first cell that fails. -/
theorem firstFailure_of_draw {cause : CanvasError} {left : Pixmap}
    (ended : draw source x y flip p = .error cause left) :
    ∃ cell, source.FirstFailure (p.OnCanvas source x y flip) cause cell := by
  by_cases fails : ∃ cell reported, p.OnCanvas source x y flip cell ∧
      source.pixel cell.1 cell.2 = .error reported
  · obtain ⟨cell, reported, among, failed⟩ := fails
    obtain ⟨reported, cell, first⟩ := exists_firstFailure_of_onCanvas width height among failed
    obtain ⟨_, ended', -⟩ := draw_of_firstFailure width height first
    obtain ⟨rfl, -⟩ := EStateM.Result.error.inj (ended.symm.trans ended')
    exact ⟨cell, first⟩
  · have read : ∀ cell, p.OnCanvas source x y flip cell →
        ∃ color, source.pixel cell.1 cell.2 = .ok color := by
      intro cell among
      cases read : source.pixel cell.1 cell.2 with
      | ok color => exact ⟨color, rfl⟩
      | error reported => exact absurd ⟨cell, reported, among, read⟩ fails
    obtain ⟨_, through, -⟩ := draw_of_read width height read
    cases ended.symm.trans through

end Fitting

/-! ## What is not asked for -/

/-- Sources of one size that are read alike at the given cells are painted alike. -/
theorem paintCells_congr {source other : Source} (width : other.width = source.width)
    (height : other.height = source.height) {x y : Int} {flip : Flip} {listed : List (Nat × Nat)}
    (alike : ∀ cell ∈ listed, other.pixel (coordinate cell.1) (coordinate cell.2) =
      source.pixel (coordinate cell.1) (coordinate cell.2)) (p : Pixmap) :
    paintCells other x y flip listed p = paintCells source x y flip listed p := by
  induction listed generalizing p with
  | nil => rfl
  | cons cell rest ih =>
      obtain ⟨same, alike⟩ := List.forall_mem_cons.mp alike
      have lands : landsOn other x y flip cell = landsOn source x y flip cell := by
        rw [landsOn, landsOn, width, height]
      cases read : source.pixel (coordinate cell.1) (coordinate cell.2) with
      | error cause =>
          rw [paintCells_cons_of_error p read, paintCells_cons_of_error p (same.trans read)]
      | ok color =>
          rw [paintCells_cons_of_ok p read, paintCells_cons_of_ok p (same.trans read), lands,
            ih alike]

/-- What a source has in the cells that land beside the picture does not matter. -/
theorem draw_congr {source other : Source} (width : source.width < lengthLimit)
    (height : source.height < lengthLimit) {x y : Int} {flip : Flip} {p : Pixmap}
    (sameWidth : other.width = source.width) (sameHeight : other.height = source.height)
    (alike : ∀ cell, p.OnCanvas source x y flip cell →
      other.pixel cell.1 cell.2 = source.pixel cell.1 cell.2) :
    draw other x y flip p = draw source x y flip p := by
  have listed : p.landingCells other x y flip = p.landingCells source x y flip := by
    rw [landingCells, landingCells, sameWidth, sameHeight]
  change paintCells other x y flip (p.landingCells other x y flip) p =
    paintCells source x y flip (p.landingCells source x y flip) p
  rw [listed]
  refine paintCells_congr sameWidth sameHeight (fun cell member => ?_) p
  have among := (mem_landingCells_iff_onCanvas width height cell).mp member
  rw [coordinate_of_lt (among.lt.1.trans width), coordinate_of_lt (among.lt.2.trans height)]
  exact alike cell among

/-- **A failing source ends a painting at a well-defined cell.** Lay any source of a size that fits
at any corner, with any mirrors, over the canvas of a picture, a strip or a window. The painting
fails exactly if one of the cells fails that land inside the canvas. The report is that of the
first of these in the row-major order of the source, and what is left is the canvas on which exactly
the cells before it that land inside have been laid, all else being as it was. Without such a cell,
all that land inside are laid. No cell that lands beside the canvas is asked for: a source that
differs only in these is painted alike. -/
theorem draw_interrupted {source : Source} (width : source.width < lengthLimit)
    (height : source.height < lengthLimit) (p : Pixmap) (x y : Int) (flip : Flip) :
    ((∃ cause left, draw source x y flip p = .error cause left) ↔
      ∃ cell cause, p.OnCanvas source x y flip cell ∧
        source.pixel cell.1 cell.2 = .error cause) ∧
    (∀ cause, (∃ left, draw source x y flip p = .error cause left) ↔
      ∃ cell, source.FirstFailure (p.OnCanvas source x y flip) cause cell) ∧
    (∀ cause cell, source.FirstFailure (p.OnCanvas source x y flip) cause cell →
      ∃ left, Yields (draw source x y flip) p (.error cause) left ∧
        ∀ q, IsLaidInPart (Before · cell) source x y flip p q ↔ q = left) ∧
    ((∀ cell, p.OnCanvas source x y flip cell → ∃ color, source.pixel cell.1 cell.2 = .ok color) →
      ∃ left, Yields (draw source x y flip) p (.ok ()) left ∧
        ∀ q, IsLaidInPart (fun _ => True) source x y flip p q ↔ q = left) ∧
    ∀ other : Source, other.width = source.width → other.height = source.height →
      (∀ cell, p.OnCanvas source x y flip cell →
        other.pixel cell.1 cell.2 = source.pixel cell.1 cell.2) →
      draw other x y flip p = draw source x y flip p := by
  refine ⟨⟨?_, ?_⟩, fun cause => ⟨?_, ?_⟩, fun cause cell first => ?_, fun read => ?_,
    fun other sameWidth sameHeight alike => draw_congr width height sameWidth sameHeight alike⟩
  · rintro ⟨cause, left, ended⟩
    obtain ⟨cell, first⟩ := firstFailure_of_draw width height ended
    exact ⟨cell, cause, first.isAsked, first.failed⟩
  · rintro ⟨cell, cause, among, failed⟩
    obtain ⟨reported, cell, first⟩ := exists_firstFailure_of_onCanvas width height among failed
    obtain ⟨left, ended, -⟩ := draw_of_firstFailure width height first
    exact ⟨reported, left, ended⟩
  · rintro ⟨left, ended⟩
    exact firstFailure_of_draw width height ended
  · rintro ⟨cell, first⟩
    obtain ⟨left, ended, -⟩ := draw_of_firstFailure width height first
    exact ⟨left, ended⟩
  · obtain ⟨left, ended, laid⟩ := draw_of_firstFailure width height first
    exact ⟨left, yields_of_error ended, laid.iff_eq⟩
  · obtain ⟨left, through, laid⟩ := draw_of_read width height read
    exact ⟨left, yields_of_ok through, laid.iff_eq⟩

/-- A source of three columns that has no colours for the last of them. -/
def frayed : Source := { width := 3, height := 2, pixel := ((blank 2 2).fill .pureRed).pixel }

/-- Mirrored, the last column comes to lie at the left. On the canvas, the painting ends there in
the first row, with two cells of that row painted and none of the second. One cell further to the
left the column is not asked for, and the painting is carried through. -/
theorem draw_interrupted_frayed :
    frayed.width < lengthLimit ∧ frayed.height < lengthLimit ∧
    (∃ left, Yields (draw frayed 0 0 { x := true }) (blank 3 2) (.error (.outOfRange 2 0 2 2)) left ∧
      left.pixel 0 0 = .ok .black ∧ left.pixel 1 0 = .ok .pureRed ∧
      left.pixel 1 1 = .ok .black) ∧
    ∃ left, Yields (draw frayed (-1) 0 { x := true }) (blank 3 2) (.ok ()) left ∧
      left.pixel 0 1 = .ok .pureRed ∧ left.pixel 2 1 = .ok .black := by
  have width : frayed.width < lengthLimit := by decide
  have height : frayed.height < lengthLimit := by decide
  -- The cells of the first two columns have colours.
  have read (cell : Nat × Nat) (hx : cell.1 < 2) (hy : cell.2 < 2) :
      ∃ color, frayed.pixel cell.1 cell.2 = .ok color :=
    ⟨_, ((blank 2 2).fill .pureRed).pixel_of_lt hx hy⟩
  -- Mirrored, a column lies as far from the right as it lay from the left.
  have across {x y : Int} {cell target : Nat × Nat}
      (lands : frayed.LandsAt x y { x := true } cell target) :
      cell.1 < 3 ∧ (target.1 : Int) = x + (2 - cell.1 : Nat) ∧ (target.2 : Int) = y + cell.2 :=
    ⟨lands.column_lt, lands.column_eq, lands.row_eq⟩
  have first : frayed.FirstFailure ((blank 3 2).OnCanvas frayed 0 0 { x := true })
      (.outOfRange 2 0 2 2) (2, 0) := by
    refine ⟨⟨(0, 0), by decide, by decide, by decide, by decide, by decide, by decide⟩, rfl,
      fun other _ before => read other ?_ ?_⟩
    all_goals
      unfold Before at before
      omega
  have inside : ∀ cell, (blank 3 2).OnCanvas frayed (-1) 0 { x := true } cell →
      ∃ color, frayed.pixel cell.1 cell.2 = .ok color := by
    rintro cell ⟨target, -, -, lands⟩
    have hx := across lands
    exact read cell (by omega) lands.row_lt
  obtain ⟨-, -, ends, -, -⟩ := draw_interrupted width height (blank 3 2) 0 0 { x := true }
  obtain ⟨-, -, -, through, -⟩ := draw_interrupted width height (blank 3 2) (-1) 0 { x := true }
  obtain ⟨left, yielded, determined⟩ := ends _ _ first
  obtain ⟨whole, yielded', determined'⟩ := through inside
  have laid := (determined left).mpr rfl
  have laid' := (determined' whole).mpr rfl
  refine ⟨width, height, ⟨left, yielded, ?_, ?_, ?_⟩, whole, yielded', ?_, ?_⟩
  · refine (laid.missed 0 0 (by decide) (by decide) fun cell before lands => ?_).trans (by decide)
    have hx := across lands
    unfold Before at before
    dsimp only at before hx
    omega
  · obtain ⟨color, known, covers⟩ := laid.landed 1 0 (by decide) (by decide) (1, 0) (by decide)
      ⟨by decide, by decide, by decide, by decide⟩
    obtain rfl := Except.ok.inj known
    exact covers.trans (by decide)
  · refine (laid.missed 1 1 (by decide) (by decide) fun cell before lands => ?_).trans (by decide)
    have hx := across lands
    unfold Before at before
    dsimp only at before hx
    omega
  · obtain ⟨color, known, covers⟩ := laid'.landed 0 1 (by decide) (by decide) (1, 1) trivial
      ⟨by decide, by decide, by decide, by decide⟩
    obtain rfl := Except.ok.inj known
    exact covers.trans (by decide)
  · refine (laid'.missed 2 1 (by decide) (by decide) fun cell _ lands => ?_).trans (by decide)
    have hx := across lands
    dsimp only at hx
    omega

end LedMatrix.Pixmap
