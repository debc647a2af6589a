/-
# What painting does to each cell

Painting goes through the cells of a source one by one and lays each colour over
the cell of the picture where it lands. What has been painted at any point of the
way is a list of strokes (`paintCells_append`). Seen from the picture, no order is
left: each cell is reached by at most one cell of the source, and `draw_eq` gives
its colour after the painting in terms of what the source shows there.

The same holds for a copy of a source, which paints every cell of a blank
picture once (`ofSource_eq`).
-/

import LedMatrix.Proofs.Pixmap.Cells
import LedMatrix.Proofs.Source

namespace LedMatrix

namespace Pixmap

/-- A stored picture of a size that fits can be read. -/
theorem readable_toSource (p : Pixmap) (width : p.width < lengthLimit)
    (height : p.height < lengthLimit) : p.toSource.Readable where
  width_lt := width
  height_lt := height
  pixel_ok _ _ hx hy := ⟨_, p.pixel_of_lt hx hy⟩

/-- Read as a source, a stored picture shows its cells. -/
theorem colorAt_toSource (p : Pixmap) {x y : Nat} (hx : x < p.width) (hy : y < p.height) :
    p.toSource.colorAt x y = p.colorAt x y := by
  have read : p.toSource.pixel x y = .ok (p.colorAt x y) := p.pixel_of_lt hx hy
  rw [Source.colorAt, read]
  rfl

/-- The colour of a cell of colour `old` under a layer that shows `seen` there. A
see-through picture lets its background pass. -/
def under (p : Pixmap) (old : Color) : Option Color → Color
  | some color => if p.transparent ∧ color = p.background then old else color
  | none => old

@[simp] theorem under_none (p : Pixmap) (old : Color) : p.under old none = old := rfl

/-- A layer over itself is one layer. -/
theorem under_under (p : Pixmap) (old : Color) (seen : Option Color) :
    p.under (p.under old seen) seen = p.under old seen := by
  cases seen with
  | none => rfl
  | some color =>
      by_cases key : p.transparent ∧ color = p.background
      · simp [under, key]
      · simp [under, key]

/-- Painting changes colours only. -/
structure SameFrame (p q : Pixmap) : Prop where
  orientation : q.orientation = p.orientation
  background : q.background = p.background
  transparent : q.transparent = p.transparent

namespace SameFrame

variable {p q r : Pixmap}

theorem refl (p : Pixmap) : SameFrame p p := ⟨rfl, rfl, rfl⟩

theorem trans (first : SameFrame p q) (second : SameFrame q r) : SameFrame p r :=
  ⟨second.orientation.trans first.orientation, second.background.trans first.background,
    second.transparent.trans first.transparent⟩

theorem symm (same : SameFrame p q) : SameFrame q p :=
  ⟨same.orientation.symm, same.background.symm, same.transparent.symm⟩

theorem width_eq (same : SameFrame p q) : q.width = p.width := by
  rw [Pixmap.width, Pixmap.width, same.orientation]

theorem height_eq (same : SameFrame p q) : q.height = p.height := by
  rw [Pixmap.height, Pixmap.height, same.orientation]

theorem pixel_of_lt (same : SameFrame p q) {x y : Nat} (hx : x < p.width) (hy : y < p.height) :
    q.pixel x y = .ok (q.colorAt x y) :=
  q.pixel_of_lt (by rwa [same.width_eq]) (by rwa [same.height_eq])

/-- A picture is determined by its frame and its cells. -/
theorem eq_of_colorAt (same : SameFrame p q)
    (colors : ∀ x y, x < p.width → y < p.height → q.colorAt x y = p.colorAt x y) : q = p := by
  have memory : q.memory = p.memory := memory_eq_of_colorAt same.orientation colors
  obtain ⟨orientation, background, transparent⟩ := same
  cases p
  cases q
  subst orientation background transparent memory
  rfl

theorem under_eq (same : SameFrame p q) (old : Color) (seen : Option Color) :
    q.under old seen = p.under old seen := by
  cases seen with
  | none => rfl
  | some color => rw [under, under, same.background, same.transparent]

end SameFrame

theorem sameFrame_lay (p : Pixmap) (x y : Nat) (color : Color) : SameFrame p (p.lay x y color) := by
  unfold lay
  split
  · exact .refl p
  · exact ⟨rfl, rfl, rfl⟩

/-- Laying a colour over a cell changes that cell and no other. -/
theorem colorAt_lay (p : Pixmap) {x y x' y' : Nat} (hx : x < p.width) (hy : y < p.height)
    (color : Color) (hx' : x' < p.width) (hy' : y' < p.height) :
    (p.lay x y color).colorAt x' y' =
      if x' = x ∧ y' = y then p.under (p.colorAt x' y') (some color) else p.colorAt x' y' := by
  unfold lay under
  by_cases key : p.transparent ∧ color = p.background
  · simp only [if_pos key, ite_self]
  · simp only [if_neg key]
    exact p.colorAt_recolor hx hy color hx' hy'

/-- Colours with the cells that they are laid over, in order. -/
abbrev Strokes := List ((Nat × Nat) × Color)

/-- Lay colours over cells, one after the other. -/
def layAll (p : Pixmap) (strokes : Strokes) : Pixmap :=
  strokes.foldl (fun p stroke => p.lay stroke.1.1 stroke.1.2 stroke.2) p

theorem sameFrame_layAll (p : Pixmap) (strokes : Strokes) : SameFrame p (p.layAll strokes) := by
  induction strokes generalizing p with
  | nil => exact .refl p
  | cons stroke rest ih =>
      exact (p.sameFrame_lay stroke.1.1 stroke.1.2 stroke.2).trans (ih _)

/-- Strokes that agree on a cell do to it what one of them does, however often it
is met. -/
theorem colorAt_layAll (p : Pixmap) {strokes : Strokes}
    (inside : ∀ stroke ∈ strokes, stroke.1.1 < p.width ∧ stroke.1.2 < p.height)
    {x y : Nat} (hx : x < p.width) (hy : y < p.height) {color : Color}
    (agree : ∀ stroke ∈ strokes, stroke.1 = (x, y) → stroke.2 = color) :
    (p.layAll strokes).colorAt x y =
      if ∃ stroke ∈ strokes, stroke.1 = (x, y) then p.under (p.colorAt x y) (some color)
      else p.colorAt x y := by
  induction strokes generalizing p with
  | nil => simp [layAll]
  | cons stroke rest ih =>
      obtain ⟨⟨sx, sy⟩, laid⟩ := stroke
      have landed : sx < p.width ∧ sy < p.height := inside _ List.mem_cons_self
      have frame := p.sameFrame_lay sx sy laid
      have first := p.colorAt_lay landed.1 landed.2 laid hx hy
      have later := ih (p.lay sx sy laid)
        (fun other member => by
          rw [frame.width_eq, frame.height_eq]
          exact inside other (List.mem_cons_of_mem _ member))
        (by rwa [frame.width_eq]) (by rwa [frame.height_eq])
        (fun other member => agree other (List.mem_cons_of_mem _ member))
      rw [frame.under_eq] at later
      refine later.trans ?_
      by_cases here : (sx, sy) = (x, y)
      · have same : laid = color := agree _ List.mem_cons_self here
        obtain ⟨rfl, rfl⟩ := Prod.mk.inj here
        subst same
        rw [if_pos ⟨rfl, rfl⟩] at first
        rw [first, p.under_under, ite_self, if_pos ⟨_, List.mem_cons_self, rfl⟩]
      · have elsewhere : ¬ (x = sx ∧ y = sy) := by
          rintro ⟨rfl, rfl⟩
          exact here rfl
        rw [if_neg elsewhere] at first
        rw [first]
        simp only [List.mem_cons, exists_eq_or_imp, here, false_or]

/-! ## Cells of a source on the picture -/

/-- The cell of the picture on which a cell of a source lands, for cells that do. -/
def landsOn (source : Source) (x y : Int) (flip : Flip) (cell : Nat × Nat) : Nat × Nat :=
  ((x + offset source.width flip.x cell.1).toNat, (y + offset source.height flip.y cell.2).toNat)

/-- The cells that are painted are those of the source whose mirrored position lies
on the picture. -/
theorem mem_landingCells {p : Pixmap} {source : Source} {x y : Int} {flip : Flip} {sx sy : Nat} :
    (sx, sy) ∈ p.landingCells source x y flip ↔
      (sx < covered source.width ∧ 0 ≤ x + offset source.width flip.x sx ∧
        x + offset source.width flip.x sx < p.width) ∧
      (sy < covered source.height ∧ 0 ≤ y + offset source.height flip.y sy ∧
        y + offset source.height flip.y sy < p.height) := by
  have axis {length extent position : Nat} {corner : Int} {mirrored : Bool} :
      position ∈ landing (covered length) extent corner mirrored ↔
        position < covered length ∧ 0 ≤ corner + offset length mirrored position ∧
          corner + offset length mirrored position < extent := by
    rw [mem_landing]
    refine and_congr_right fun inside => ?_
    rw [covered_eq_of_lt inside]
  simp only [landingCells, List.mem_flatMap, List.mem_map, Prod.mk.injEq]
  constructor
  · rintro ⟨row, rowLands, column, columnLands, rfl, rfl⟩
    exact ⟨axis.mp columnLands, axis.mp rowLands⟩
  · rintro ⟨columnLands, rowLands⟩
    exact ⟨sy, axis.mpr rowLands, sx, axis.mpr columnLands, rfl, rfl⟩

/-- Cells are painted in row-major order. -/
theorem pairwise_landingCells (p : Pixmap) (source : Source) (x y : Int) (flip : Flip) :
    (p.landingCells source x y flip).Pairwise Before := by
  have ascending (length extent : Nat) (corner : Int) (mirrored : Bool) :
      (landing length extent corner mirrored).Pairwise (· < ·) := List.pairwise_lt_range'
  refine List.pairwise_flatMap.mpr ⟨fun row _ => ?_, (ascending _ _ _ _).imp ?_⟩
  · exact List.pairwise_map.mpr ((ascending _ _ _ _).imp fun less => Or.inr ⟨rfl, less⟩)
  · intro row below less cell member other member'
    obtain ⟨column, -, rfl⟩ := List.mem_map.mp member
    obtain ⟨column', -, rfl⟩ := List.mem_map.mp member'
    exact Or.inl less

/-- A cell that is painted lands on the picture. -/
theorem landsOn_lt {p : Pixmap} {source : Source} {x y : Int} {flip : Flip} {cell : Nat × Nat}
    (member : cell ∈ p.landingCells source x y flip) :
    (landsOn source x y flip cell).1 < p.width ∧ (landsOn source x y flip cell).2 < p.height := by
  obtain ⟨⟨-, left, right⟩, ⟨-, above, below⟩⟩ := mem_landingCells.mp member
  unfold landsOn
  constructor <;> omega

section PaintCells

variable {source : Source} {x y : Int} {flip : Flip} {cell : Nat × Nat} {rest : List (Nat × Nat)}

/-- A cell that can be read is laid over the cell where it lands, and the painting
goes on. -/
theorem paintCells_cons_of_ok {color : Color} (p : Pixmap)
    (read : source.pixel (coordinate cell.1) (coordinate cell.2) = .ok color) :
    paintCells source x y flip (cell :: rest) p =
      paintCells source x y flip rest
        (p.lay (landsOn source x y flip cell).1 (landsOn source x y flip cell).2 color) := by
  simp only [paintCells, read]
  rfl

/-- A cell that cannot be read ends the painting. -/
theorem paintCells_cons_of_error {cause : CanvasError} (p : Pixmap)
    (read : source.pixel (coordinate cell.1) (coordinate cell.2) = .error cause) :
    paintCells source x y flip (cell :: rest) p = .error cause p := by
  simp only [paintCells, read]
  rfl

end PaintCells

/-- The strokes that painting cells of a source comes to. -/
def strokes (source : Source) (x y : Int) (flip : Flip) (cells : List (Nat × Nat)) : Strokes :=
  cells.map fun cell => (landsOn source x y flip cell, source.colorAt cell.1 cell.2)

/-- Cells that can be read are laid in order, and the painting goes on. -/
theorem paintCells_append {source : Source} (width : source.width < lengthLimit)
    (height : source.height < lengthLimit) {x y : Int} {flip : Flip} {earlier : List (Nat × Nat)}
    (inside : ∀ cell ∈ earlier, cell.1 < source.width ∧ cell.2 < source.height)
    (read : ∀ cell ∈ earlier, ∃ color, source.pixel cell.1 cell.2 = .ok color)
    (later : List (Nat × Nat)) (p : Pixmap) :
    paintCells source x y flip (earlier ++ later) p =
      paintCells source x y flip later (p.layAll (strokes source x y flip earlier)) := by
  induction earlier generalizing p with
  | nil => rfl
  | cons cell rest ih =>
      obtain ⟨⟨hx, hy⟩, inside⟩ := List.forall_mem_cons.mp inside
      obtain ⟨first, read⟩ := List.forall_mem_cons.mp read
      have asked : source.pixel (coordinate cell.1) (coordinate cell.2) =
          .ok (source.colorAt cell.1 cell.2) :=
        (Source.pixel_coordinate width height hx hy).trans (Source.pixel_eq_colorAt first)
      rw [List.cons_append, paintCells_cons_of_ok p asked, ih inside read]
      rfl

/-- Painting cells that can be read lays their colours in order. -/
theorem paintCells_eq {source : Source} (width : source.width < lengthLimit)
    (height : source.height < lengthLimit) {x y : Int} {flip : Flip} {cells : List (Nat × Nat)}
    (inside : ∀ cell ∈ cells, cell.1 < source.width ∧ cell.2 < source.height)
    (read : ∀ cell ∈ cells, ∃ color, source.pixel cell.1 cell.2 = .ok color) (p : Pixmap) :
    paintCells source x y flip cells p = .ok () (p.layAll (strokes source x y flip cells)) := by
  rw [← List.append_nil cells, paintCells_append width height inside read, List.append_nil]
  rfl

/-- A cell that is painted lands where it is laid. -/
theorem landsAt_landsOn {source : Source} {x y : Int} {flip : Flip} {p : Pixmap} {cell : Nat × Nat}
    (member : cell ∈ p.landingCells source x y flip) :
    source.LandsAt x y flip cell (landsOn source x y flip cell) := by
  obtain ⟨⟨hx, left, -⟩, ⟨hy, above, -⟩⟩ := mem_landingCells.mp member
  rw [covered_eq_of_lt hx] at hx
  rw [covered_eq_of_lt hy] at hy
  exact ⟨hx, hy, Int.toNat_of_nonneg left, Int.toNat_of_nonneg above⟩

/-- A cell that is painted is one of the source. -/
theorem lt_of_mem_landingCells {source : Source} {x y : Int} {flip : Flip} {p : Pixmap}
    {cell : Nat × Nat} (member : cell ∈ p.landingCells source x y flip) :
    cell.1 < source.width ∧ cell.2 < source.height :=
  ⟨(landsAt_landsOn member).column_lt, (landsAt_landsOn member).row_lt⟩

/-- A cell that lands somewhere lands only there. -/
theorem landsOn_of_landsAt {source : Source} {x y : Int} {flip : Flip} {cell target : Nat × Nat}
    (lands : source.LandsAt x y flip cell target) : landsOn source x y flip cell = target := by
  obtain ⟨-, -, across, down⟩ := lands
  rw [landsOn, ← across, ← down, Int.toNat_natCast, Int.toNat_natCast]

/-- A cell that lands on the picture is painted. -/
theorem mem_landingCells_of_landsAt {source : Source} (width : source.width < lengthLimit)
    (height : source.height < lengthLimit) {x y : Int} {flip : Flip} {p : Pixmap}
    {target : Nat × Nat} (hx : target.1 < p.width) (hy : target.2 < p.height) {cell : Nat × Nat}
    (lands : source.LandsAt x y flip cell target) : cell ∈ p.landingCells source x y flip := by
  obtain ⟨across_lt, down_lt, across, down⟩ := lands
  rw [mem_landingCells, covered_of_lt width, covered_of_lt height]
  exact ⟨⟨across_lt, by omega, by omega⟩, ⟨down_lt, by omega, by omega⟩⟩

section LayCells

variable {source : Source} {x y : Int} {flip : Flip} {p : Pixmap} {listed : List (Nat × Nat)}
  (painted : ∀ cell ∈ listed, cell ∈ p.landingCells source x y flip)
include painted

theorem strokes_lt : ∀ stroke ∈ strokes source x y flip listed,
    stroke.1.1 < p.width ∧ stroke.1.2 < p.height := by
  intro stroke member
  obtain ⟨cell, laid, rfl⟩ := List.mem_map.mp member
  exact landsOn_lt (painted cell laid)

variable {column row : Nat} (hx : column < p.width) (hy : row < p.height)
include hx hy

/-- A cell on which one of the cells laid lands is covered by that one, the only one to land
there. -/
theorem colorAt_layAll_of_landsAt {cell : Nat × Nat} (member : cell ∈ listed)
    (lands : source.LandsAt x y flip cell (column, row)) :
    (p.layAll (strokes source x y flip listed)).colorAt column row =
      p.under (p.colorAt column row) (some (source.colorAt cell.1 cell.2)) := by
  have agree : ∀ stroke ∈ strokes source x y flip listed,
      stroke.1 = (column, row) → stroke.2 = source.colorAt cell.1 cell.2 := by
    intro stroke member here
    obtain ⟨other, laid, rfl⟩ := List.mem_map.mp member
    have lands' := landsAt_landsOn (painted other laid)
    rw [show landsOn source x y flip other = (column, row) from here] at lands'
    rw [lands.unique lands']
  rw [p.colorAt_layAll (strokes_lt painted) hx hy agree, if_pos]
  exact ⟨_, List.mem_map.mpr ⟨cell, member, rfl⟩, landsOn_of_landsAt lands⟩

/-- A cell on which none of the cells laid lands keeps its colour. -/
theorem colorAt_layAll_of_missed
    (missed : ∀ cell ∈ listed, ¬ source.LandsAt x y flip cell (column, row)) :
    (p.layAll (strokes source x y flip listed)).colorAt column row = p.colorAt column row := by
  have elsewhere : ∀ stroke ∈ strokes source x y flip listed, stroke.1 ≠ (column, row) := by
    intro stroke member here
    obtain ⟨cell, laid, rfl⟩ := List.mem_map.mp member
    have lands := landsAt_landsOn (painted cell laid)
    rw [show landsOn source x y flip cell = (column, row) from here] at lands
    exact missed cell laid lands
  -- There is no stroke here, so the strokes here agree on any colour.
  have agree : ∀ stroke ∈ strokes source x y flip listed,
      stroke.1 = (column, row) → stroke.2 = .black :=
    fun stroke member here => absurd here (elsewhere stroke member)
  rw [p.colorAt_layAll (strokes_lt painted) hx hy agree, if_neg]
  rintro ⟨stroke, member, here⟩
  exact elsewhere stroke member here

end LayCells

/-- **The law of painting.** Laying a readable source over a picture succeeds,
changes colours only, and gives every cell the colour that it has under what the
source shows there. -/
theorem draw_eq {source : Source} (readable : source.Readable) (x y : Int) (flip : Flip)
    (p : Pixmap) :
    ∃ q, draw source x y flip p = .ok () q ∧ SameFrame p q ∧
      ∀ column row, column < p.width → row < p.height →
        q.colorAt column row =
          p.under (p.colorAt column row) (source.seenAt x y flip column row) := by
  have run : draw source x y flip p =
      .ok () (p.layAll (strokes source x y flip (p.landingCells source x y flip))) := by
    refine paintCells_eq readable.width_lt readable.height_lt
      (fun cell member => lt_of_mem_landingCells member) (fun cell member => ?_) p
    obtain ⟨hx, hy⟩ := lt_of_mem_landingCells member
    exact readable.pixel_ok cell.1 cell.2 hx hy
  refine ⟨_, run, p.sameFrame_layAll _, fun column row hx hy => ?_⟩
  have painted : ∀ cell ∈ p.landingCells source x y flip,
      cell ∈ p.landingCells source x y flip := fun _ member => member
  cases seen : source.seenAt x y flip column row with
  | some color =>
      obtain ⟨cell, lands⟩ := Source.exists_landsAt_of_seenAt seen
      have member : cell ∈ p.landingCells source x y flip :=
        mem_landingCells_of_landsAt readable.width_lt readable.height_lt hx hy lands
      rw [colorAt_layAll_of_landsAt painted hx hy member lands, ← seen, lands.seenAt_eq]
  | none =>
      rw [colorAt_layAll_of_missed painted hx hy, under_none]
      intro cell _ lands
      exact Option.some_ne_none _ (lands.seenAt_eq.symm.trans seen)

/-- Painting as the panel shows it: each cell of the panel is laid over with what the
source shows in the logical cell that lies there. -/
theorem shown_draw {source : Source} (readable : source.Readable) (x y : Int) (flip : Flip)
    (p : Pixmap) :
    ∃ q, draw source x y flip p = .ok () q ∧ SameFrame p q ∧
      ∀ ux uy, ux < p.orientation.physicalWidth → uy < p.orientation.physicalHeight →
        q.shown ux uy = p.under (p.shown ux uy)
          (source.seenAt x y flip (p.orientation.logical ux uy).1
            (p.orientation.logical ux uy).2) := by
  obtain ⟨q, drawn, frame, colors⟩ := draw_eq readable x y flip p
  refine ⟨q, drawn, frame, fun ux uy hx hy => ?_⟩
  have inside := p.orientation.logical_lt hx hy
  have law := colors _ _ inside.1 inside.2
  rwa [colorAt_eq_shown, colorAt_eq_shown, frame.orientation,
    p.orientation.physical_logical hx hy] at law

/-! ## Copies -/

/-- A picture that shows a source as it is: upright, in raster order, not see-through, and
with the background that the source declares. -/
structure IsCopy (source : Source) (q : Pixmap) : Prop where
  orientation : q.orientation =
    { layout := .raster, physicalWidth := source.width, physicalHeight := source.height }
  background : q.background = source.background
  transparent : q.transparent = false
  colorAt : ∀ x y, x < source.width → y < source.height → q.colorAt x y = source.colorAt x y

namespace IsCopy

variable {source : Source} {q : Pixmap}

theorem width_eq (copy : IsCopy source q) : q.width = source.width := by
  rw [width, copy.orientation]
  rfl

theorem height_eq (copy : IsCopy source q) : q.height = source.height := by
  rw [height, copy.orientation]
  rfl

theorem colorAt_toSource (copy : IsCopy source q) {x y : Nat} (hx : x < source.width)
    (hy : y < source.height) : q.toSource.colorAt x y = source.colorAt x y := by
  rw [q.colorAt_toSource (by rwa [copy.width_eq]) (by rwa [copy.height_eq])]
  exact copy.colorAt x y hx hy

/-- A copy is seen like the original, wherever it is laid. -/
theorem seenAt_eq (copy : IsCopy source q) (x y : Int) (flip : Flip) (column row : Nat) :
    q.toSource.seenAt x y flip column row = source.seenAt x y flip column row := by
  have width : q.toSource.width = source.width := copy.width_eq
  have height : q.toSource.height = source.height := copy.height_eq
  simp only [Source.seenAt, width, height]
  split
  · have across : ((column : Int) - x).toNat < source.width := by omega
    have down : ((row : Int) - y).toNat < source.height := by omega
    rw [copy.colorAt_toSource (offset_lt flip.x across) (offset_lt flip.y down)]
  · rfl

/-- A copy can be read wherever it is. -/
theorem readable (copy : IsCopy source q) (original : source.Readable) : q.toSource.Readable := by
  refine q.readable_toSource ?_ ?_
  · rw [copy.width_eq]
    exact original.width_lt
  · rw [copy.height_eq]
    exact original.height_lt

/-- Painting a copy is painting the original. -/
theorem draw_eq (copy : IsCopy source q) (readable : source.Readable) (x y : Int) (flip : Flip)
    (p : Pixmap) : draw q.toSource x y flip p = draw source x y flip p := by
  obtain ⟨painted, drawn, frame, colors⟩ := Pixmap.draw_eq (copy.readable readable) x y flip p
  obtain ⟨painted', drawn', frame', colors'⟩ := Pixmap.draw_eq readable x y flip p
  have frames : SameFrame painted' painted := frame'.symm.trans frame
  have same : painted = painted' := by
    apply frames.eq_of_colorAt
    intro column row hx hy
    rw [frame'.width_eq] at hx
    rw [frame'.height_eq] at hy
    rw [colors column row hx hy, colors' column row hx hy, copy.seenAt_eq]
  rw [drawn, drawn', same]

end IsCopy

/-- On a picture that is not see-through every colour lands. -/
theorem lay_of_solid {p : Pixmap} (solid : p.transparent = false) (x y : Nat) (color : Color) :
    p.lay x y color = p.recolor x y color := by
  simp [lay, solid]

/-- Copying cells that can be read lays their colours over the same cells. -/
private theorem copyCells_eq {source : Source} (readable : source.Readable)
    {cells : List (Nat × Nat)}
    (inside : ∀ cell ∈ cells, cell.1 < source.width ∧ cell.2 < source.height) (p : Pixmap)
    (solid : p.transparent = false) :
    cells.foldlM (fun p (cell : Nat × Nat) => do
        let color ← source.pixel cell.1 cell.2
        return p.recolor cell.1 cell.2 color) p =
      .ok (p.layAll (cells.map fun cell => (cell, source.colorAt cell.1 cell.2))) := by
  induction cells generalizing p with
  | nil => rfl
  | cons cell rest ih =>
      obtain ⟨hx, hy⟩ := inside cell List.mem_cons_self
      rw [List.foldlM_cons, readable.pixel_eq hx hy]
      refine (ih (fun other member => inside other (List.mem_cons_of_mem cell member))
        (p.recolor cell.1 cell.2 (source.colorAt cell.1 cell.2)) solid).trans ?_
      rw [List.map_cons, layAll, layAll, List.foldl_cons, lay_of_solid solid]

/-- A source that is copied gives a picture of its size, also if the size does not
fit. -/
theorem orientation_of_ofSource {source : Source} {q : Pixmap}
    (copied : ofSource source = .ok q) :
    q.orientation =
      { layout := .raster, physicalWidth := source.width, physicalHeight := source.height } := by
  have kept (cells : List (Nat × Nat)) (p : Pixmap)
      (ran : cells.foldlM (fun p (cell : Nat × Nat) => do
        let color ← source.pixel cell.1 cell.2
        return p.recolor cell.1 cell.2 color) p = .ok q) : q.orientation = p.orientation := by
    induction cells generalizing p with
    | nil =>
        obtain rfl : p = q := Except.ok.inj ran
        rfl
    | cons cell rest ih =>
        rw [List.foldlM_cons] at ran
        cases read : source.pixel cell.1 cell.2 with
        | error cause =>
            rw [read] at ran
            cases ran
        | ok color =>
            rw [read] at ran
            exact ih (p.recolor cell.1 cell.2 color) ran
  exact kept _ _ copied

/-- Copying ends at the first cell that cannot be read, with the report of that cell. -/
private theorem copyCells_eq_error_iff {source : Source} {cause : CanvasError}
    {cells : List (Nat × Nat)} (p : Pixmap) :
    cells.foldlM (fun p (cell : Nat × Nat) => do
        let color ← source.pixel cell.1 cell.2
        return p.recolor cell.1 cell.2 color) p = .error cause ↔ source.FailsOn cause cells := by
  induction cells generalizing p with
  | nil => exact ⟨nofun, nofun⟩
  | cons cell rest ih =>
      rw [List.foldlM_cons]
      cases read : source.pixel cell.1 cell.2 with
      | error found =>
          constructor
          · intro failed
            obtain rfl : found = cause := Except.error.inj failed
            exact .here read
          · rintro (failed | ⟨read', -⟩)
            · obtain rfl : found = cause := Except.error.inj (read.symm.trans failed)
              rfl
            · cases read.symm.trans read'
      | ok color =>
          refine (ih (p.recolor cell.1 cell.2 color)).trans ⟨.later read, ?_⟩
          rintro (failed | ⟨-, fails⟩)
          · cases read.symm.trans failed
          · exact fails

/-- A copy fails exactly if the cells of the source, in row-major order, come to one that cannot
be read. -/
theorem ofSource_eq_error_iff {source : Source} {cause : CanvasError} :
    ofSource source = .error cause ↔
      source.FailsOn cause (cells source.width source.height) :=
  copyCells_eq_error_iff _

/-- What has been copied can be read wherever it is. -/
theorem readable_of_ofSource {source : Source} {q : Pixmap} (copied : ofSource source = .ok q)
    (width : source.width < lengthLimit) (height : source.height < lengthLimit) :
    source.Readable where
  width_lt := width
  height_lt := height
  pixel_ok x y hx hy := by
    cases read : source.pixel x y with
    | ok color => exact ⟨color, rfl⟩
    | error cause =>
        obtain ⟨first, fails⟩ := source.exists_failsOn (mem_cells.mpr ⟨hx, hy⟩) read
        cases copied.symm.trans (ofSource_eq_error_iff.mpr fails)

/-- **The law of copying.** A readable source has a copy. -/
theorem ofSource_eq {source : Source} (readable : source.Readable) :
    ∃ q, ofSource source = .ok q ∧ IsCopy source q := by
  let start := (blank source.width source.height).setBackground source.background
  let strokes : Strokes := (cells source.width source.height).map fun cell =>
    (cell, source.colorAt cell.1 cell.2)
  have run : ofSource source = .ok (start.layAll strokes) :=
    copyCells_eq readable (fun cell member => mem_cells.mp member) start rfl
  have frame := start.sameFrame_layAll strokes
  refine ⟨_, run, frame.orientation, frame.background, frame.transparent, fun x y hx hy => ?_⟩
  have inside : ∀ stroke ∈ strokes, stroke.1.1 < start.width ∧ stroke.1.2 < start.height := by
    intro stroke member
    obtain ⟨cell, listed, rfl⟩ := List.mem_map.mp member
    exact mem_cells.mp listed
  have agree : ∀ stroke ∈ strokes, stroke.1 = (x, y) → stroke.2 = source.colorAt x y := by
    intro stroke member here
    obtain ⟨cell, listed, rfl⟩ := List.mem_map.mp member
    obtain ⟨rfl, rfl⟩ := Prod.mk.inj here
    rfl
  rw [start.colorAt_layAll inside hx hy agree, if_pos]
  · have solid : start.transparent = false := rfl
    simp [under, solid]
  · exact ⟨_, List.mem_map.mpr ⟨(x, y), mem_cells.mpr ⟨hx, hy⟩, rfl⟩, rfl⟩

/-- The copy of a copy is that copy. -/
theorem IsCopy.ofSource_toSource {source : Source} {q : Pixmap} (copy : IsCopy source q)
    (readable : source.Readable) : ofSource q.toSource = .ok q := by
  obtain ⟨again, copied, copy'⟩ := ofSource_eq (copy.readable readable)
  have width : q.toSource.width = source.width := copy.width_eq
  have height : q.toSource.height = source.height := copy.height_eq
  have frame : SameFrame q again := by
    refine ⟨?_, copy'.background, copy'.transparent.trans copy.transparent.symm⟩
    rw [copy'.orientation, copy.orientation, width, height]
  have same : again = q := by
    refine frame.eq_of_colorAt fun x y hx hy => ?_
    rw [copy'.colorAt x y hx hy, q.colorAt_toSource hx hy]
  rw [copied, same]

end Pixmap

end LedMatrix
