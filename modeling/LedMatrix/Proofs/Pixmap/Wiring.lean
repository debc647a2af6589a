/-
# Wiring is invisible

Two pictures of the same physical size, one in raster order and one in
serpentine order, take the same requests. Callers cannot tell them apart: every
request gets the same answer from both, and both look the same after every one
of them, also after requests that fail half-way. Only the memories differ, and
they differ by the same permutation throughout.

`Alike` is the relation that each request keeps. It compares what the panels
show cell by cell (`Pixmap.shown`), which no turn changes; what callers see then
agrees because the orientations do.
-/

import LedMatrix.Proofs.Pixmap.Mirroring

namespace LedMatrix

namespace Orientation

/-- Neither the wiring nor the physical size has changed. -/
structure SameGrid (o o' : Orientation) : Prop where
  layout : o'.layout = o.layout
  physicalWidth : o'.physicalWidth = o.physicalWidth
  physicalHeight : o'.physicalHeight = o.physicalHeight

theorem SameGrid.of_eq {o o' : Orientation} (same : o' = o) : SameGrid o o' := by
  subst same
  exact ⟨rfl, rfl, rfl⟩

theorem SameGrid.trans {o o' o'' : Orientation} (first : SameGrid o o')
    (second : SameGrid o' o'') : SameGrid o o'' :=
  ⟨second.layout.trans first.layout, second.physicalWidth.trans first.physicalWidth,
    second.physicalHeight.trans first.physicalHeight⟩

end Orientation

namespace Pixmap

/-! ## One picture -/

/-- A request to recolour a cell is refused exactly if there is no such cell. -/
theorem setPixel_eq (x y : Int) (color : Color) (p : Pixmap) :
    setPixel x y color p =
      match cellAt x y p.width p.height with
      | .ok cell => .ok () (p.recolor cell.1 cell.2 color)
      | .error cause => .error cause p := by
  change ((liftExcept (cellAt x y p.width p.height) : Edit Pixmap (Nat × Nat)) >>= fun cell =>
    set (p.recolor cell.1 cell.2 color)) p = _
  cases cellAt x y p.width p.height <;> rfl

/-- Painting changes colours only, whether or not it comes to its end. -/
theorem sameFrame_paintCells (source : Source) (x y : Int) (flip : Flip)
    (cells : List (Nat × Nat)) (p : Pixmap) :
    SameFrame p ((paintCells source x y flip cells).after p) := by
  induction cells generalizing p with
  | nil => exact .refl p
  | cons cell rest ih =>
      cases read : source.pixel (coordinate cell.1) (coordinate cell.2) with
      | error cause =>
          rw [Edit.after_of_error (paintCells_cons_of_error p read)]
          exact .refl p
      | ok color =>
          rw [Edit.after, paintCells_cons_of_ok p read]
          exact (p.sameFrame_lay _ _ color).trans (ih _)

/-- Only a turn changes the orientation. -/
theorem orientation_perform {action : Action}
    (steady : ∀ degree flip, action ≠ .rotate degree flip) (p : Pixmap) :
    ((perform action).after p).orientation = p.orientation := by
  cases action with
  | setPixel x y color =>
      rw [Edit.after, perform, setPixel_eq]
      cases cellAt x y p.width p.height <;> rfl
  | fill color => rfl
  | clear => rfl
  | draw source x y flip => exact (sameFrame_paintCells source x y flip _ p).orientation
  | mirror flip => exact (p.sameFrame_mirror flip).orientation
  | rotate degree flip => exact absurd rfl (steady degree flip)
  | setBackground color => rfl
  | setTransparent transparent => rfl

/-- No request changes the wiring or the physical size. -/
theorem sameGrid_perform (action : Action) (p : Pixmap) :
    Orientation.SameGrid p.orientation ((perform action).after p).orientation := by
  by_cases turns : ∃ degree flip, action = .rotate degree flip
  · obtain ⟨degree, flip, rfl⟩ := turns
    rw [Edit.after, perform, setRotation_eq]
    cases Rotation.ofDegrees degree <;> exact ⟨rfl, rfl, rfl⟩
  · apply Orientation.SameGrid.of_eq
    apply orientation_perform
    intro degree flip turn
    exact turns ⟨degree, flip, turn⟩

/-! ## Two pictures -/

/-- Two pictures whose panels show the same and that differ at most in how their
cells are wired. -/
structure Alike (p q : Pixmap) : Prop where
  orientation : q.orientation = { p.orientation with layout := q.orientation.layout }
  background : q.background = p.background
  transparent : q.transparent = p.transparent
  shown : ∀ ux uy, ux < p.orientation.physicalWidth → uy < p.orientation.physicalHeight →
    q.shown ux uy = p.shown ux uy

namespace Alike

variable {p q : Pixmap} (alike : Alike p q)
include alike

theorem width_eq : q.width = p.width := by
  rw [Pixmap.width, alike.orientation]
  rfl

theorem height_eq : q.height = p.height := by
  rw [Pixmap.height, alike.orientation]
  rfl

theorem physical_eq (x y : Nat) : q.orientation.physical x y = p.orientation.physical x y := by
  rw [alike.orientation]
  rfl

theorem physicalWidth_eq : q.orientation.physicalWidth = p.orientation.physicalWidth := by
  rw [alike.orientation]

theorem physicalHeight_eq : q.orientation.physicalHeight = p.orientation.physicalHeight := by
  rw [alike.orientation]

theorem colorAt_eq {x y : Nat} (hx : x < p.width) (hy : y < p.height) :
    q.colorAt x y = p.colorAt x y := by
  have physical := p.orientation.physical_lt hx hy
  rw [colorAt_eq_shown, colorAt_eq_shown, alike.physical_eq]
  exact alike.shown _ _ physical.1 physical.2

/-- Callers read the same from both. -/
theorem pixel_eq (x y : Int) : q.pixel x y = p.pixel x y :=
  pixel_congr alike.width_eq alike.height_eq (fun _ _ => alike.colorAt_eq) x y

theorem recolor {x y : Nat} (hx : x < p.width) (hy : y < p.height) (color : Color) :
    Alike (p.recolor x y color) (q.recolor x y color) where
  orientation := alike.orientation
  background := alike.background
  transparent := alike.transparent
  shown ux uy hux huy := by
    have hx' : x < q.width := by rwa [alike.width_eq]
    have hy' : y < q.height := by rwa [alike.height_eq]
    have inside : ux < q.orientation.physicalWidth := by rwa [alike.physicalWidth_eq]
    rw [q.shown_recolor hx' hy' color uy inside, p.shown_recolor hx hy color uy hux,
      alike.physical_eq, alike.shown ux uy hux huy]

theorem lay {x y : Nat} (hx : x < p.width) (hy : y < p.height) (color : Color) :
    Alike (p.lay x y color) (q.lay x y color) := by
  unfold Pixmap.lay
  rw [alike.transparent, alike.background]
  split
  · exact alike
  · exact alike.recolor hx hy color

theorem exchange {first second : Nat × Nat} (hx : first.1 < p.width) (hy : first.2 < p.height)
    (hx' : second.1 < p.width) (hy' : second.2 < p.height) :
    Alike (p.exchange first second) (q.exchange first second) where
  orientation := alike.orientation
  background := alike.background
  transparent := alike.transparent
  shown ux uy hux huy := by
    have inside : ux < q.orientation.physicalWidth := by rwa [alike.physicalWidth_eq]
    rw [p.shown_exchange hx hy hx' hy' hux,
      q.shown_exchange (by rwa [alike.width_eq]) (by rwa [alike.height_eq])
        (by rwa [alike.width_eq]) (by rwa [alike.height_eq]) inside,
      alike.physical_eq, alike.physical_eq, alike.colorAt_eq hx hy, alike.colorAt_eq hx' hy',
      alike.shown ux uy hux huy]

theorem fill (color : Color) : Alike (p.fill color) (q.fill color) where
  orientation := alike.orientation
  background := alike.background
  transparent := alike.transparent
  shown ux uy hux huy := by
    rw [p.shown_fill color hux huy]
    exact q.shown_fill color (by rwa [alike.physicalWidth_eq]) (by rwa [alike.physicalHeight_eq])

theorem withRotation (rotation : Rotation) (flip : Flip) :
    Alike (p.withRotation rotation flip) (q.withRotation rotation flip) where
  orientation := by
    change q.orientation.withRotation rotation flip = _
    rw [alike.orientation]
    rfl
  background := alike.background
  transparent := alike.transparent
  shown := alike.shown

end Alike

/-- Both pictures meet the same cells of the source in the same order, so they stop
at the same one if it cannot be read. -/
theorem agree_paintCells {source : Source} {x y : Int} {flip : Flip} {cells : List (Nat × Nat)}
    {p q : Pixmap} (alike : Alike p q)
    (lands : ∀ cell ∈ cells, (landsOn source x y flip cell).1 < p.width ∧
      (landsOn source x y flip cell).2 < p.height) :
    Edit.Agree Alike (paintCells source x y flip cells p) (paintCells source x y flip cells q) := by
  induction cells generalizing p q with
  | nil => exact .ok () alike
  | cons cell rest ih =>
      cases read : source.pixel (coordinate cell.1) (coordinate cell.2) with
      | error cause =>
          rw [paintCells_cons_of_error p read, paintCells_cons_of_error q read]
          exact .error cause alike
      | ok color =>
          obtain ⟨hx, hy⟩ := lands cell List.mem_cons_self
          rw [paintCells_cons_of_ok p read, paintCells_cons_of_ok q read]
          refine ih (alike.lay hx hy color) fun other member => ?_
          have frame := p.sameFrame_lay (landsOn source x y flip cell).1
            (landsOn source x y flip cell).2 color
          rw [frame.width_eq, frame.height_eq]
          exact lands other (List.mem_cons_of_mem cell member)

theorem agree_draw (source : Source) (x y : Int) (flip : Flip) {p q : Pixmap}
    (alike : Alike p q) :
    Edit.Agree Alike (draw source x y flip p) (draw source x y flip q) := by
  have cells : q.landingCells source x y flip = p.landingCells source x y flip := by
    unfold landingCells
    rw [alike.width_eq, alike.height_eq]
  change Edit.Agree Alike (paintCells source x y flip (p.landingCells source x y flip) p)
    (paintCells source x y flip (q.landingCells source x y flip) q)
  rw [cells]
  exact agree_paintCells alike fun cell member => landsOn_lt member

/-- Mirror images lie in the picture, so both pictures exchange the same cells. -/
theorem alike_mirrorStep (flip : Flip) {p q : Pixmap} (alike : Alike p q) {cell : Nat × Nat}
    (hx : cell.1 < p.width) (hy : cell.2 < p.height) :
    Alike (mirrorStep flip p cell) (mirrorStep flip q cell) := by
  have image := flip.image_lt hx hy
  unfold mirrorStep
  rw [alike.width_eq, alike.height_eq]
  split
  · exact alike.exchange hx hy image.1 image.2
  · exact alike

theorem alike_mirror (flip : Flip) {p q : Pixmap} (alike : Alike p q) :
    Alike (p.mirror flip) (q.mirror flip) := by
  rw [mirror_eq_foldl, mirror_eq_foldl, alike.width_eq, alike.height_eq]
  have whole := List.foldl_rel (l := cells p.width p.height)
    (r := fun a b => Alike a b ∧ SameFrame p a) (f := mirrorStep flip) (g := mirrorStep flip)
    ⟨alike, SameFrame.refl p⟩ ?_
  · exact whole.1
  · rintro ⟨x, y⟩ listed a b ⟨both, frame⟩
    obtain ⟨hx, hy⟩ := mem_cells.mp listed
    rw [← frame.width_eq] at hx
    rw [← frame.height_eq] at hy
    exact ⟨alike_mirrorStep flip both hx hy, frame.trans (sameFrame_mirrorStep flip a _)⟩

/-- **No request tells related pictures apart.** -/
theorem agree_perform (action : Action) {p q : Pixmap} (alike : Alike p q) :
    Edit.Agree Alike (perform action p) (perform action q) := by
  cases action with
  | setPixel x y color =>
      change Edit.Agree Alike (setPixel x y color p) (setPixel x y color q)
      rw [setPixel_eq, setPixel_eq, alike.width_eq, alike.height_eq]
      cases found : cellAt x y p.width p.height with
      | error cause => exact .error cause alike
      | ok cell =>
          obtain ⟨-, -, hx, hy⟩ := cellAt_eq_ok.mp found
          exact .ok () (alike.recolor hx hy color)
  | fill color => exact .ok () (alike.fill color)
  | clear =>
      change Edit.Agree Alike (.ok () (p.fill p.background)) (.ok () (q.fill q.background))
      rw [alike.background]
      exact .ok () (alike.fill p.background)
  | draw source x y flip => exact agree_draw source x y flip alike
  | mirror flip => exact .ok () (alike_mirror flip alike)
  | rotate degree flip =>
      change Edit.Agree Alike (setRotation degree flip p) (setRotation degree flip q)
      rw [setRotation_eq, setRotation_eq]
      cases Rotation.ofDegrees degree with
      | error cause => exact .error cause alike
      | ok rotation => exact .ok () (alike.withRotation rotation flip)
  | setBackground color =>
      exact .ok () ⟨alike.orientation, rfl, alike.transparent, alike.shown⟩
  | setTransparent transparent =>
      exact .ok () ⟨alike.orientation, alike.background, rfl, alike.shown⟩

/-- A new picture shows black, however it is wired. -/
theorem alike_blank (width height : Nat) (first second : Layout) :
    Alike (blank width height first) (blank width height second) where
  orientation := rfl
  background := rfl
  transparent := rfl
  shown ux uy hux huy := by
    have black (layout : Layout) : (blank width height layout).shown ux uy = .black :=
      (blank width height layout).shown_fill .black hux huy
    rw [black, black]

/-- The place of a cell in one memory holds what its place in the other one
holds. -/
theorem Alike.memory_eq {p q : Pixmap} (alike : Alike p q) (ux uy : Nat)
    (hux : ux < p.orientation.physicalWidth) (huy : uy < p.orientation.physicalHeight) :
    ∃ color, q.memory[q.orientation.layout.index p.orientation.physicalWidth ux uy]? = some color ∧
      p.memory[p.orientation.layout.index p.orientation.physicalWidth ux uy]? = some color := by
  have same := alike.shown ux uy hux huy
  have place : p.orientation.layout.index p.orientation.physicalWidth ux uy < p.memory.size := by
    rw [p.size_memory]
    exact p.orientation.layout.index_lt hux huy
  have place' : q.orientation.layout.index p.orientation.physicalWidth ux uy < q.memory.size := by
    rw [q.size_memory, Orientation.area, alike.physicalWidth_eq, alike.physicalHeight_eq]
    exact q.orientation.layout.index_lt hux huy
  rw [Pixmap.shown, Pixmap.shown, alike.physicalWidth_eq, Array.getD_eq_getD_getElem?,
    Array.getD_eq_getD_getElem?, Array.getElem?_eq_getElem place,
    Array.getElem?_eq_getElem place'] at same
  exact ⟨_, Array.getElem?_eq_getElem place', (Array.getElem?_eq_getElem place).trans
    (congrArg some same.symm)⟩

/-- **The wiring order is invisible to callers.** Start with two black pictures of
one physical size, one wired in raster order and one in serpentine order, and
make the same requests of both. The answers agree, both look alike, and the
memories hold the same colours at the places of the same physical cells. As each
step of a run ends a shorter run, this holds after every request. -/
theorem wiring_invisible (width height : Nat) (actions : List Action) :
    let requests := actions.map perform
    let p := Edit.afterAll requests (blank width height .raster)
    let q := Edit.afterAll requests (blank width height .serpentine)
    Edit.answers requests (blank width height .serpentine) =
        Edit.answers requests (blank width height .raster) ∧
      q.width = p.width ∧ q.height = p.height ∧ (∀ x y : Int, q.pixel x y = p.pixel x y) ∧
      q.background = p.background ∧ q.transparent = p.transparent ∧
      q.orientation.rotation = p.orientation.rotation ∧
      q.orientation.flip = p.orientation.flip ∧
      ∀ ux uy, ux < width → uy < height →
        ∃ color, q.memory[Layout.serpentine.index width ux uy]? = some color ∧
          p.memory[Layout.raster.index width ux uy]? = some color := by
  intro requests p q
  have grid (start : Pixmap) :
      Orientation.SameGrid start.orientation (Edit.afterAll requests start).orientation := by
    refine Edit.afterAll_keeps
      (motive := fun left : Pixmap => Orientation.SameGrid start.orientation left.orientation)
      (fun edit member state kept => ?_) (.of_eq rfl)
    obtain ⟨action, -, rfl⟩ := List.mem_map.mp member
    exact kept.trans (sameGrid_perform action state)
  have gridP := grid (blank width height .raster)
  have gridQ := grid (blank width height .serpentine)
  obtain ⟨answers, alike⟩ : _ ∧ Alike p q := by
    refine Edit.answers_eq (fun edit member first second related => ?_)
      (alike_blank width height .raster .serpentine)
    obtain ⟨action, -, rfl⟩ := List.mem_map.mp member
    exact agree_perform action related
  refine ⟨answers.symm, alike.width_eq, alike.height_eq, alike.pixel_eq, alike.background,
    alike.transparent, ?_, ?_, fun ux uy hux huy => ?_⟩
  · rw [alike.orientation]
  · rw [alike.orientation]
  · have same := alike.memory_eq ux uy
      (by rwa [gridP.physicalWidth]) (by rwa [gridP.physicalHeight])
    rwa [gridP.layout, gridQ.layout, gridP.physicalWidth] at same

/-- A cell is painted, the picture turned, and a turn refused. The lower right cell of
the panel is the last one in raster order and the last but one in serpentine order. -/
theorem wiring_invisible_two_by_two :
    let requests := [.setPixel 0 0 .pureRed, .rotate 90 Flip.none, .rotate 45 Flip.none,
      .setPixel 1 0 .white].map perform
    Edit.answers requests (blank 2 2 .serpentine) = Edit.answers requests (blank 2 2 .raster) ∧
      ∃ color, (Edit.afterAll requests (blank 2 2 .serpentine)).memory[2]? = some color ∧
        (Edit.afterAll requests (blank 2 2 .raster)).memory[3]? = some color := by
  intro requests
  obtain ⟨answers, -, -, -, -, -, -, -, memories⟩ := wiring_invisible 2 2
    [.setPixel 0 0 .pureRed, .rotate 90 Flip.none, .rotate 45 Flip.none,
      .setPixel 1 0 .white]
  exact ⟨answers, memories 1 1 (by decide) (by decide)⟩

end Pixmap

end LedMatrix
