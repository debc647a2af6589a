/-
# Mirroring in place

`Pixmap.mirror` goes through the cells in row-major order and exchanges each with its
image, unless the image comes first. A cell and its image make a pair, and what matters
is the first of the two (`Flip.first`): when it has been met, the two have changed places,
and until then both are as they were. `colorAt_foldl_mirrorStep` says so at any point of
the loop.

The result can be had in two other ways: by painting a copy of the picture over it with
the mirrors on, and by changing how the memory is read. `mirror_mirror` says that mirrors
cancel in pairs, down to the last place of the memory.
-/

import LedMatrix.Proofs.Orientation.Symmetries
import LedMatrix.Proofs.Pixmap.Drawing

namespace LedMatrix

namespace Flip

/-- The image of a column, as a signed number. -/
theorem natCast_column (flip : Flip) {width x : Nat} (inside : x < width) :
    (flip.column width x : Int) = if flip.x then (width : Int) - 1 - x else x := by
  unfold column
  split <;> omega

/-- The image of a row, as a signed number. -/
theorem natCast_row (flip : Flip) {height y : Nat} (inside : y < height) :
    (flip.row height y : Int) = if flip.y then (height : Int) - 1 - y else y := by
  unfold row
  split <;> omega

variable (flip : Flip) (width height : Nat)

/-- The mirror image of a cell. -/
def image (cell : Nat × Nat) : Nat × Nat := (flip.column width cell.1, flip.row height cell.2)

/-- The first of a cell and its image. -/
def first (cell : Nat × Nat) : Nat × Nat :=
  if Before cell (flip.image width height cell) then cell else flip.image width height cell

variable {width height} {cell : Nat × Nat} (hx : cell.1 < width) (hy : cell.2 < height)
include hx hy

theorem image_lt : (flip.image width height cell).1 < width ∧
    (flip.image width height cell).2 < height :=
  ⟨flip.column_lt hx, flip.row_lt hy⟩

/-- The image of the image is the cell itself. -/
theorem image_image : flip.image width height (flip.image width height cell) = cell :=
  Prod.ext (flip.column_column hx) (flip.row_row hy)

/-- A cell and its image have one first cell. -/
theorem first_image : flip.first width height (flip.image width height cell) =
    flip.first width height cell := by
  unfold first
  rw [flip.image_image hx hy]
  by_cases before : Before cell (flip.image width height cell)
  · rw [if_pos before, if_neg before.asymm]
  · by_cases after : Before (flip.image width height cell) cell
    · rw [if_neg before, if_pos after]
    · rw [if_neg before, if_neg after]
      exact eq_of_not_before before after

/-- A cell that comes before its image is the first of exactly these two. -/
theorem first_eq_iff {head : Nat × Nat} (before : Before head (flip.image width height head))
    (hx' : head.1 < width) (hy' : head.2 < height) :
    flip.first width height cell = head ↔ cell = head ∨ cell = flip.image width height head := by
  unfold first
  constructor
  · intro met
    split at met
    · exact .inl met
    · rw [← met, flip.image_image hx hy]
      exact .inr rfl
  · rintro (rfl | rfl)
    · rw [if_pos before]
    · rw [flip.image_image hx' hy', if_neg before.asymm]

/-- A cell that is first without coming before its image is its own image. -/
theorem image_eq_of_first_eq {head : Nat × Nat}
    (notBefore : ¬ Before head (flip.image width height head))
    (met : flip.first width height cell = head) : flip.image width height cell = cell := by
  unfold first at met
  by_cases before : Before cell (flip.image width height cell)
  · rw [if_pos before] at met
    subst met
    exact absurd before notBefore
  · rw [if_neg before] at met
    subst met
    rw [flip.image_image hx hy] at notBefore
    exact eq_of_not_before notBefore before

end Flip

namespace Pixmap

/-- What the loop does at one cell. -/
def mirrorStep (flip : Flip) (p : Pixmap) (cell : Nat × Nat) : Pixmap :=
  if Before cell (flip.image p.width p.height cell) then
    p.exchange cell (flip.image p.width p.height cell)
  else p

theorem mirror_eq_foldl (p : Pixmap) (flip : Flip) :
    p.mirror flip = (cells p.width p.height).foldl (mirrorStep flip) p := rfl

theorem sameFrame_mirrorStep (flip : Flip) (p : Pixmap) (cell : Nat × Nat) :
    SameFrame p (mirrorStep flip p cell) := by
  unfold mirrorStep
  split
  · exact ⟨rfl, rfl, rfl⟩
  · exact .refl p

/-- Mirroring changes colours only. -/
theorem sameFrame_mirror (p : Pixmap) (flip : Flip) : SameFrame p (p.mirror flip) :=
  List.foldlRecOn _ _ (motive := SameFrame p) (.refl p) fun q same cell _ =>
    same.trans (sameFrame_mirrorStep flip q cell)

private theorem perm_swapIfInBounds (memory : Array Color) (i j : Nat) :
    (memory.swapIfInBounds i j).Perm memory := by
  rw [Array.swapIfInBounds_def]
  split
  · split
    · exact Array.swap_perm _ _
    · exact .refl memory
  · exact .refl memory

theorem perm_mirrorStep (flip : Flip) (p : Pixmap) (cell : Nat × Nat) :
    (mirrorStep flip p cell).memory.Perm p.memory := by
  unfold mirrorStep
  split
  · exact perm_swapIfInBounds p.memory _ _
  · exact .refl p.memory

/-- Mirroring neither loses nor adds a colour. -/
theorem perm_mirror (p : Pixmap) (flip : Flip) : (p.mirror flip).memory.Perm p.memory :=
  List.foldlRecOn _ _ (motive := fun q : Pixmap => q.memory.Perm p.memory) (.refl p.memory)
    fun q same cell _ => (perm_mirrorStep flip q cell).trans same

section Loop

variable (flip : Flip) (p : Pixmap) {head cell : Nat × Nat} (hx : head.1 < p.width)
  (hy : head.2 < p.height) (hx' : cell.1 < p.width) (hy' : cell.2 < p.height)
include hx hy hx' hy'

/-- At the first cell of a pair the two change places. -/
theorem colorAt_mirrorStep_of_first (met : flip.first p.width p.height cell = head) :
    (mirrorStep flip p head).colorAt cell.1 cell.2 =
      p.colorAt (flip.image p.width p.height cell).1 (flip.image p.width p.height cell).2 := by
  have image := flip.image_lt hx hy
  unfold mirrorStep
  by_cases before : Before head (flip.image p.width p.height head)
  · rw [if_pos before, p.colorAt_exchange hx hy image.1 image.2 hx' hy']
    obtain rfl | rfl := (flip.first_eq_iff hx' hy' before hx hy).mp met
    · rw [if_pos rfl]
    · rw [flip.image_image hx hy, if_pos rfl]
      split
      · rename_i same
        rw [same]
      · rfl
  · rw [if_neg before, flip.image_eq_of_first_eq hx' hy' before met]

/-- At any other cell the two stay where they are. -/
theorem colorAt_mirrorStep_of_ne (passed : flip.first p.width p.height cell ≠ head) :
    (mirrorStep flip p head).colorAt cell.1 cell.2 = p.colorAt cell.1 cell.2 := by
  have image := flip.image_lt hx hy
  unfold mirrorStep
  by_cases before : Before head (flip.image p.width p.height head)
  · have other := mt (flip.first_eq_iff hx' hy' before hx hy).mpr passed
    rw [if_pos before, p.colorAt_exchange hx hy image.1 image.2 hx' hy',
      if_neg fun same => other (.inl same), if_neg fun same => other (.inr same)]
  · rw [if_neg before]

end Loop

/-- **The loop, at any point of it.** The pairs whose first cell has been met have
changed places, and the others are as they were. The order of the cells does not matter,
as long as none is met twice. -/
theorem colorAt_foldl_mirrorStep (flip : Flip) (p : Pixmap) {listed : List (Nat × Nat)}
    (nodup : listed.Nodup)
    (inside : ∀ head ∈ listed, head.1 < p.width ∧ head.2 < p.height) {cell : Nat × Nat}
    (hx : cell.1 < p.width) (hy : cell.2 < p.height) :
    (listed.foldl (mirrorStep flip) p).colorAt cell.1 cell.2 =
      if flip.first p.width p.height cell ∈ listed then
        p.colorAt (flip.image p.width p.height cell).1 (flip.image p.width p.height cell).2
      else p.colorAt cell.1 cell.2 := by
  induction listed generalizing p with
  | nil => simp
  | cons head rest ih =>
      obtain ⟨fresh, nodup⟩ := List.nodup_cons.mp nodup
      obtain ⟨headX, headY⟩ := inside head List.mem_cons_self
      have image := flip.image_lt hx hy
      have frame := sameFrame_mirrorStep flip p head
      have later := ih (mirrorStep flip p head) nodup
        (fun other member => by
          rw [frame.width_eq, frame.height_eq]
          exact inside other (List.mem_cons_of_mem head member))
        (by rwa [frame.width_eq]) (by rwa [frame.height_eq])
      rw [frame.width_eq, frame.height_eq] at later
      rw [List.foldl_cons, later]
      by_cases met : flip.first p.width p.height cell = head
      · -- The pair changes places here and is not met again.
        rw [met, if_neg fresh, if_pos List.mem_cons_self,
          colorAt_mirrorStep_of_first flip p headX headY hx hy met]
      · -- Neither cell of the pair is touched here.
        have met' := met
        rw [← flip.first_image hx hy] at met'
        rw [colorAt_mirrorStep_of_ne flip p headX headY hx hy met,
          colorAt_mirrorStep_of_ne flip p headX headY image.1 image.2 met']
        simp only [List.mem_cons, met, false_or]

/-- **The law of mirroring.** Every cell takes the colour of its image. -/
theorem colorAt_mirror (p : Pixmap) (flip : Flip) {x y : Nat} (hx : x < p.width)
    (hy : y < p.height) :
    (p.mirror flip).colorAt x y =
      p.colorAt (flip.column p.width x) (flip.row p.height y) := by
  have inside : (x, y).1 < p.width ∧ (x, y).2 < p.height := ⟨hx, hy⟩
  have loop := colorAt_foldl_mirrorStep flip p (nodup_cells p.width p.height)
    (fun head member => mem_cells.mp member) inside.1 inside.2
  rw [if_pos] at loop
  · exact loop
  · unfold Flip.first
    split
    · exact mem_cells.mpr inside
    · exact mem_cells.mpr (flip.image_lt inside.1 inside.2)

/-- Mirrors one after the other are one set of mirrors, in which those that are there
twice cancel. -/
theorem mirror_mirror (p : Pixmap) (first second : Flip) :
    (p.mirror first).mirror second = p.mirror (first.symmDiff second) := by
  have inner := p.sameFrame_mirror first
  have whole := p.sameFrame_mirror (first.symmDiff second)
  have both := inner.trans ((p.mirror first).sameFrame_mirror second)
  have same : SameFrame (p.mirror (first.symmDiff second)) ((p.mirror first).mirror second) :=
    whole.symm.trans both
  refine same.eq_of_colorAt fun x y hx hy => ?_
  rw [whole.width_eq] at hx
  rw [whole.height_eq] at hy
  have hx' : x < (p.mirror first).width := by rwa [inner.width_eq]
  have hy' : y < (p.mirror first).height := by rwa [inner.height_eq]
  rw [colorAt_mirror _ second hx' hy', inner.width_eq, inner.height_eq,
    p.colorAt_mirror first (second.column_lt hx) (second.row_lt hy),
    p.colorAt_mirror _ hx hy, first.column_column_eq second hx, first.row_row_eq second hy]

/-! ## Other ways to the same picture -/

/-- Pictures of one size that agree on their cells are the same to read. -/
theorem samePicture_of_colorAt {p q : Pixmap} (width : q.width = p.width)
    (height : q.height = p.height)
    (colors : ∀ x y, x < p.width → y < p.height → q.colorAt x y = p.colorAt x y) :
    p.toSource.SamePicture q.toSource :=
  ⟨width, height, pixel_congr width height colors⟩

section

variable (p : Pixmap) (flip : Flip)

/-- What is read like a picture, laid over that picture with the mirrors on, mirrors it. -/
theorem exists_draw_eq_mirror (width : p.width < lengthLimit) (height : p.height < lengthLimit)
    {copy : Source} (same : p.toSource.SamePicture copy) :
    ∃ q, draw copy 0 0 flip (p.setTransparent false) = .ok () q ∧
      (p.mirror flip).toSource.SamePicture q.toSource := by
  have read {x y : Nat} (hx : x < p.width) (hy : y < p.height) :
      copy.pixel x y = .ok (p.colorAt x y) := (same.pixel x y).trans (p.pixel_of_lt hx hy)
  have copyWidth : copy.width = p.width := same.width
  have copyHeight : copy.height = p.height := same.height
  have readable : copy.Readable := by
    refine ⟨?_, ?_, fun x y hx hy => ⟨_, read (copyWidth ▸ hx) (copyHeight ▸ hy)⟩⟩
    · rwa [copyWidth]
    · rwa [copyHeight]
  obtain ⟨q, painted, frame, colors⟩ := draw_eq readable 0 0 flip (p.setTransparent false)
  have mirrored := p.sameFrame_mirror flip
  have width_eq : q.width = p.width := frame.width_eq
  have height_eq : q.height = p.height := frame.height_eq
  refine ⟨q, painted, samePicture_of_colorAt ?_ ?_ fun x y hx hy => ?_⟩
  · rw [width_eq, mirrored.width_eq]
  · rw [height_eq, mirrored.height_eq]
  rw [mirrored.width_eq] at hx
  rw [mirrored.height_eq] at hy
  have seen : copy.seenAt 0 0 flip x y =
      some (p.colorAt (flip.column p.width x) (flip.row p.height y)) := by
    have across : offset p.width flip.x (flip.column p.width x) = x := offset_offset flip.x hx
    have down : offset p.height flip.y (flip.row p.height y) = y := offset_offset flip.y hy
    have landed : copy.LandsAt 0 0 flip (flip.column p.width x, flip.row p.height y) (x, y) := by
      refine ⟨?_, ?_, ?_, ?_⟩
      · rw [copyWidth]
        exact flip.column_lt hx
      · rw [copyHeight]
        exact flip.row_lt hy
      · rw [copyWidth, across, Int.zero_add]
      · rw [copyHeight, down, Int.zero_add]
    rw [landed.seenAt_eq, Source.colorAt, read (flip.column_lt hx) (flip.row_lt hy)]
    rfl
  rw [colors x y hx hy, seen, p.colorAt_mirror flip hx hy]
  simp [under, setTransparent]

/-- Mirrors behind the turn that it has already mirror a picture without any work on the
memory. -/
theorem samePicture_withRotation :
    (p.mirror flip).toSource.SamePicture (p.withRotation p.orientation.rotation
      (p.orientation.flip.symmDiff (flip.behind p.orientation.rotation))).toSource := by
  have mirrored := p.sameFrame_mirror flip
  refine samePicture_of_colorAt mirrored.width_eq.symm mirrored.height_eq.symm
    fun x y hx hy => ?_
  rw [mirrored.width_eq] at hx
  rw [mirrored.height_eq] at hy
  rw [p.colorAt_mirror flip hx hy, colorAt_eq_shown, colorAt_eq_shown]
  exact (congrArg (fun cell : Nat × Nat => p.shown cell.1 cell.2)
    (p.orientation.physical_mirrored flip hx hy)).symm

/-- A picture can be copied, and the copy is read like it. -/
theorem exists_copy (width : p.width < lengthLimit) (height : p.height < lengthLimit) :
    ∃ copy, ofSource p.toSource = .ok copy ∧ p.toSource.SamePicture copy.toSource := by
  obtain ⟨copy, copied, isCopy⟩ := ofSource_eq (p.readable_toSource width height)
  refine ⟨copy, copied, samePicture_of_colorAt isCopy.width_eq isCopy.height_eq
    fun x y hx hy => ?_⟩
  rw [isCopy.colorAt x y hx hy, p.colorAt_toSource hx hy]

/-- **Three ways to mirror a picture agree.** Mirroring in place gives every cell the
colour of its image and does nothing else than to put the places of the memory in another
order. The same is to be read after a copy of the picture has been painted over it, as if
it were not see-through, with the mirrors on; and after the mirrors have been added to
those behind the turn, with the memory left as it is. So mirrors that come one after the
other cancel in pairs. -/
theorem mirror_three_ways (width : p.width < lengthLimit) (height : p.height < lengthLimit) :
    let mirrored := p.mirror flip
    (∀ x y : Nat, x < p.width → y < p.height → ∃ color, mirrored.pixel x y = .ok color ∧
      p.pixel (if flip.x then p.width - 1 - x else x) (if flip.y then p.height - 1 - y else y) =
        .ok color) ∧
    mirrored.memory.Perm p.memory ∧ SameFrame p mirrored ∧
    (∃ copy, ofSource p.toSource = .ok copy ∧ p.toSource.SamePicture copy.toSource) ∧
    (∀ copy : Source, p.toSource.SamePicture copy →
      ∃ painted, draw copy 0 0 flip (p.setTransparent false) = .ok () painted ∧
        mirrored.toSource.SamePicture painted.toSource) ∧
    (∃ turned, setRotation p.orientation.rotation.degrees
        (p.orientation.flip.symmDiff (flip.behind p.orientation.rotation)) p = .ok () turned ∧
      turned.memory = p.memory ∧ mirrored.toSource.SamePicture turned.toSource) ∧
    ∀ second, (mirrored.mirror second).memory = (p.mirror (flip.symmDiff second)).memory := by
  intro mirrored
  have frame := p.sameFrame_mirror flip
  refine ⟨fun x y hx hy => ⟨p.colorAt (flip.column p.width x) (flip.row p.height y), ?_, ?_⟩,
    p.perm_mirror flip, frame, p.exists_copy width height,
    fun copy same => p.exists_draw_eq_mirror flip width height same, ?_,
    fun second => congrArg memory (p.mirror_mirror flip second)⟩
  · rw [mirrored.pixel_of_lt (by rwa [frame.width_eq]) (by rwa [frame.height_eq]),
      p.colorAt_mirror flip hx hy]
  · rw [← flip.natCast_column hx, ← flip.natCast_row hy]
    exact p.pixel_of_lt (flip.column_lt hx) (flip.row_lt hy)
  · have turned := setRotation_eq p.orientation.rotation.degrees
      (p.orientation.flip.symmDiff (flip.behind p.orientation.rotation)) p
    rw [Rotation.ofDegrees_degrees] at turned
    exact ⟨_, turned, rfl, p.samePicture_withRotation flip⟩

end

/-- Two columns and three rows on a snaking panel that hangs on its side and is mirrored,
with a red cell above and a blue one in the middle row. -/
def banner : Pixmap :=
  (((blank 3 2 .serpentine).withRotation .quarter { x := true }).recolor 0 0 .pureRed).recolor
    1 1 .pureBlue

/-- Upside down the red cell is below and the blue one stays. The panel hangs on its side,
so the rows of the picture are mirrored along the columns of the panel, which cancels the
mirror that is there. -/
theorem mirror_three_ways_banner :
    banner.width < lengthLimit ∧ banner.height < lengthLimit ∧
    (banner.mirror { y := true }).pixel 0 2 = .ok .pureRed ∧
    (banner.mirror { y := true }).pixel 1 1 = .ok .pureBlue ∧
    (∃ copy painted, ofSource banner.toSource = .ok copy ∧
      draw copy.toSource 0 0 { y := true } (banner.setTransparent false) = .ok () painted ∧
      (banner.mirror { y := true }).toSource.SamePicture painted.toSource) ∧
    (∃ turned, setRotation 90 Flip.none banner = .ok () turned ∧
      turned.memory = banner.memory ∧
      (banner.mirror { y := true }).toSource.SamePicture turned.toSource) ∧
    ((banner.mirror { y := true }).mirror { y := true }).memory =
      (banner.mirror Flip.none).memory := by
  have width : banner.width < lengthLimit := by decide
  have height : banner.height < lengthLimit := by decide
  obtain ⟨pixels, -, -, ⟨copy, copied, same⟩, drawn, turned, twice⟩ :=
    banner.mirror_three_ways { y := true } width height
  refine ⟨width, height, ?_, ?_, ?_, ?_, twice { y := true }⟩
  · obtain ⟨color, now, before⟩ := pixels 0 2 (by decide) (by decide)
    exact now.trans (before.symm.trans (by decide))
  · obtain ⟨color, now, before⟩ := pixels 1 1 (by decide) (by decide)
    exact now.trans (before.symm.trans (by decide))
  · obtain ⟨painted, ran, shows⟩ := drawn copy.toSource same
    exact ⟨copy, painted, copied, ran, shows⟩
  · exact turned

end Pixmap

end LedMatrix
