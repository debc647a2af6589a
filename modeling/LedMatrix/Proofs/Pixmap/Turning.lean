/-
# Turned copies

A picture is turned for good by copying it, turning the copy, which changes only how it is
read, and copying what is read then (`turnedCopy`). The new picture is upright again and
has the size that the turn gives it, so turned copies can be turned once more.

`IsTurnedCopy` says what such a copy shows in terms of the first picture. A turned copy of
a turned copy is a turned copy (`IsTurnedCopy.trans`), by `Orientation.physical_physical`,
and there is only one for a turn and a set of mirrors (`IsTurnedCopy.unique`). So turned
copies follow the laws of the symmetries of a rectangle, whose sides may have different
lengths.
-/

import LedMatrix.Proofs.Orientation.Symmetries
import LedMatrix.Proofs.Pixmap.Drawing

namespace LedMatrix

/-- The orientation in which a copy of a source is read after a turn. -/
def Source.orientation (source : Source) (rotation : Rotation) (flip : Flip) : Orientation where
  layout := .raster
  physicalWidth := source.width
  physicalHeight := source.height
  rotation := rotation
  flip := flip

/-- Turning may exchange the sides, which fit all the same. -/
theorem Source.Readable.sides_lt {source : Source} (readable : source.Readable)
    (rotation : Rotation) (flip : Flip) :
    (source.orientation rotation flip).width < lengthLimit ∧
      (source.orientation rotation flip).height < lengthLimit := by
  unfold Orientation.width Orientation.height
  split
  · exact ⟨readable.height_lt, readable.width_lt⟩
  · exact ⟨readable.width_lt, readable.height_lt⟩

namespace Flip

theorem none_behind (rotation : Rotation) : none.behind rotation = none := by
  cases rotation <;> rfl

theorem none_symmDiff_none : none.symmDiff none = none := rfl

end Flip

namespace Pixmap

/-- Copy a source, turn the copy, and copy what it shows. -/
def turnedCopy (degree : Int) (flip : Flip) (source : Source) : Except CanvasError Pixmap := do
  let view ← ofSource source
  match setRotation degree flip view with
  | .ok _ turned => ofSource turned.toSource
  | .error cause _ => .error cause

/-- A new picture that shows a source turned and mirrored. -/
structure IsTurnedCopy (rotation : Rotation) (flip : Flip) (source : Source) (q : Pixmap) :
    Prop where
  orientation : q.orientation =
    { layout := .raster
      physicalWidth := (source.orientation rotation flip).width
      physicalHeight := (source.orientation rotation flip).height }
  background : q.background = source.background
  transparent : q.transparent = false
  colorAt : ∀ x y, x < (source.orientation rotation flip).width →
    y < (source.orientation rotation flip).height →
    q.colorAt x y = source.colorAt ((source.orientation rotation flip).physical x y).1
      ((source.orientation rotation flip).physical x y).2

namespace IsTurnedCopy

variable {source : Source} {rotation first second : Rotation} {flip flip' : Flip}
  {q q' once twice : Pixmap}

theorem width_eq (copy : IsTurnedCopy rotation flip source q) :
    q.width = (source.orientation rotation flip).width := by
  rw [width, copy.orientation]
  rfl

theorem height_eq (copy : IsTurnedCopy rotation flip source q) :
    q.height = (source.orientation rotation flip).height := by
  rw [height, copy.orientation]
  rfl

theorem readable (copy : IsTurnedCopy rotation flip source q) (original : source.Readable) :
    q.toSource.Readable := by
  have sides := original.sides_lt rotation flip
  refine q.readable_toSource ?_ ?_
  · rw [copy.width_eq]
    exact sides.1
  · rw [copy.height_eq]
    exact sides.2

/-- There is one copy only. -/
theorem unique (copy : IsTurnedCopy rotation flip source q)
    (copy' : IsTurnedCopy rotation flip source q') : q' = q := by
  have same : SameFrame q q' :=
    ⟨copy'.orientation.trans copy.orientation.symm, copy'.background.trans copy.background.symm,
      copy'.transparent.trans copy.transparent.symm⟩
  refine same.eq_of_colorAt fun x y hx hy => ?_
  rw [copy.width_eq] at hx
  rw [copy.height_eq] at hy
  rw [copy.colorAt x y hx hy, copy'.colorAt x y hx hy]

/-- **Turned copies compose.** -/
theorem trans (inner : IsTurnedCopy first flip source once)
    (outer : IsTurnedCopy second flip' once.toSource twice) :
    IsTurnedCopy (first.plus second) (flip.symmDiff (flip'.behind first)) source twice := by
  -- The grid that the second copy is read from is what the first turn shows.
  have across : (once.toSource.orientation second flip').physicalWidth =
      (source.orientation first flip).width := inner.width_eq
  have down : (once.toSource.orientation second flip').physicalHeight =
      (source.orientation first flip).height := inner.height_eq
  obtain ⟨width, height⟩ :
      (source.orientation (first.plus second) (flip.symmDiff (flip'.behind first))).width =
          (once.toSource.orientation second flip').width ∧
        (source.orientation (first.plus second) (flip.symmDiff (flip'.behind first))).height =
          (once.toSource.orientation second flip').height :=
    Orientation.size_plus across down _
  refine ⟨?_, ?_, outer.transparent, fun x y hx hy => ?_⟩
  · rw [outer.orientation, width, height]
  · exact outer.background.trans inner.background
  · rw [width] at hx
    rw [height] at hy
    have inside := (once.toSource.orientation second flip').physical_lt hx hy
    have composed := Orientation.physical_physical across down hx hy
    rw [outer.colorAt x y hx hy, once.colorAt_toSource inside.1 inside.2]
    rw [across, down] at inside
    rw [inner.colorAt _ _ inside.1 inside.2, composed]
    rfl

/-- Turns without mirrors add up. -/
theorem plus (inner : IsTurnedCopy first Flip.none source once)
    (outer : IsTurnedCopy second Flip.none once.toSource twice) :
    IsTurnedCopy (first.plus second) Flip.none source twice := by
  have both := inner.trans outer
  rwa [Flip.none_behind, Flip.none_symmDiff_none] at both

end IsTurnedCopy

section Turned

variable {source : Source} {view : Pixmap} (copy : IsCopy source view) (rotation : Rotation)
  (flip : Flip)
include copy

theorem IsCopy.orientation_withRotation : (view.withRotation rotation flip).orientation =
    source.orientation rotation flip :=
  congrArg (fun o => o.withRotation rotation flip) copy.orientation

theorem IsCopy.width_withRotation :
    (view.withRotation rotation flip).width = (source.orientation rotation flip).width :=
  congrArg Orientation.width (copy.orientation_withRotation rotation flip)

theorem IsCopy.height_withRotation :
    (view.withRotation rotation flip).height = (source.orientation rotation flip).height :=
  congrArg Orientation.height (copy.orientation_withRotation rotation flip)

/-- To turn a copy is to read the source along the turn. -/
theorem IsCopy.colorAt_withRotation {x y : Nat} (hx : x < (source.orientation rotation flip).width)
    (hy : y < (source.orientation rotation flip).height) :
    (view.withRotation rotation flip).colorAt x y =
      source.colorAt ((source.orientation rotation flip).physical x y).1
        ((source.orientation rotation flip).physical x y).2 := by
  have inside := (source.orientation rotation flip).physical_lt hx hy
  rw [← copy.colorAt _ _ inside.1 inside.2, colorAt_eq_shown, colorAt_eq_shown,
    copy.orientation_withRotation, copy.orientation]
  rfl

/-- A copy that has been turned can be read wherever it is. -/
theorem IsCopy.readable_withRotation (readable : source.Readable) :
    (view.withRotation rotation flip).toSource.Readable := by
  have sides := readable.sides_lt rotation flip
  refine (view.withRotation rotation flip).readable_toSource ?_ ?_
  · rw [copy.width_withRotation]
    exact sides.1
  · rw [copy.height_withRotation]
    exact sides.2

/-- What is copied from a copy that has been turned is a turned copy. -/
theorem IsCopy.isTurnedCopy {q : Pixmap}
    (outer : IsCopy (view.withRotation rotation flip).toSource q) :
    IsTurnedCopy rotation flip source q := by
  have width := copy.width_withRotation rotation flip
  have height := copy.height_withRotation rotation flip
  refine ⟨?_, ?_, outer.transparent, fun x y hx hy => ?_⟩
  · rw [outer.orientation, ← width, ← height]
    rfl
  · exact outer.background.trans copy.background
  · have hx' : x < (view.withRotation rotation flip).width := by rwa [width]
    have hy' : y < (view.withRotation rotation flip).height := by rwa [height]
    rw [outer.colorAt x y hx' hy', Pixmap.colorAt_toSource _ hx' hy',
      copy.colorAt_withRotation rotation flip hx hy]

end Turned

/-- **The law of turned copies.** A readable source has a turned copy for every turn and
every set of mirrors. -/
theorem turnedCopy_eq {source : Source} (readable : source.Readable) (rotation : Rotation)
    (flip : Flip) :
    ∃ q, turnedCopy rotation.degrees flip source = .ok q ∧
      IsTurnedCopy rotation flip source q := by
  obtain ⟨view, copied, copy⟩ := ofSource_eq readable
  obtain ⟨q, copiedAgain, outer⟩ :=
    ofSource_eq (copy.readable_withRotation rotation flip readable)
  refine ⟨q, ?_, copy.isTurnedCopy rotation flip outer⟩
  simp only [turnedCopy, copied, bind, Except.bind, setRotation_degrees, copiedAgain]

/-- A picture that shows the cells of a source. -/
structure ShowsCells (source : Source) (q : Pixmap) : Prop where
  width : q.width = source.width
  height : q.height = source.height
  pixel : ∀ x y : Nat, x < source.width → y < source.height → q.pixel x y = source.pixel x y

/-- A turned copy that is not turned shows the cells where they are. -/
theorem IsTurnedCopy.showsCells {source : Source} {q : Pixmap} (readable : source.Readable)
    (copy : IsTurnedCopy .upright Flip.none source q) : ShowsCells source q where
  width := copy.width_eq
  height := copy.height_eq
  pixel x y hx hy := by
    rw [readable.pixel_eq hx hy, q.pixel_of_lt (by rwa [copy.width_eq]) (by rwa [copy.height_eq]),
      copy.colorAt x y hx hy]
    rfl

/-- **Turns and mirrors compose as the symmetries of a rectangle.** The turned copy of a
turned copy is one turned copy of the source: turns add up, and the later mirrors have
their axes exchanged if the earlier turn exchanges the axes. So a turn and its inverse
show the source again, and so do four quarter turns. -/
theorem turnedCopy_compose {source : Source} (readable : source.Readable) :
    (∀ (first second : Rotation) (flip flip' : Flip), ∃ once twice,
      turnedCopy first.degrees flip source = .ok once ∧
      turnedCopy second.degrees flip' once.toSource = .ok twice ∧
      turnedCopy ((first.degrees + second.degrees) % 360)
        (flip.symmDiff (flip'.behind first)) source = .ok twice) ∧
    (∀ turn : Rotation, ∃ there back,
      turnedCopy turn.degrees Flip.none source = .ok there ∧
      turnedCopy turn.inverse.degrees Flip.none there.toSource = .ok back ∧
      ShowsCells source back) ∧
    ∃ once twice thrice whole,
      turnedCopy 90 Flip.none source = .ok once ∧
      turnedCopy 90 Flip.none once.toSource = .ok twice ∧
      turnedCopy 90 Flip.none twice.toSource = .ok thrice ∧
      turnedCopy 90 Flip.none thrice.toSource = .ok whole ∧
      ShowsCells source whole := by
  refine ⟨fun first second flip flip' => ?_, fun turn => ?_, ?_⟩
  · obtain ⟨once, onceRan, inner⟩ := turnedCopy_eq readable first flip
    obtain ⟨twice, twiceRan, outer⟩ := turnedCopy_eq (inner.readable readable) second flip'
    obtain ⟨direct, directRan, sum⟩ :=
      turnedCopy_eq readable (first.plus second) (flip.symmDiff (flip'.behind first))
    refine ⟨once, twice, onceRan, twiceRan, ?_⟩
    rw [← Rotation.degrees_plus, directRan, sum.unique (inner.trans outer)]
  · obtain ⟨there, thereRan, inner⟩ := turnedCopy_eq readable turn Flip.none
    obtain ⟨back, backRan, outer⟩ :=
      turnedCopy_eq (inner.readable readable) turn.inverse Flip.none
    have restored := inner.plus outer
    rw [Rotation.plus_inverse] at restored
    exact ⟨there, back, thereRan, backRan, restored.showsCells readable⟩
  · obtain ⟨once, onceRan, quarter⟩ := turnedCopy_eq readable .quarter Flip.none
    obtain ⟨twice, twiceRan, second⟩ :=
      turnedCopy_eq (quarter.readable readable) .quarter Flip.none
    have half := quarter.plus second
    obtain ⟨thrice, thriceRan, third⟩ :=
      turnedCopy_eq (half.readable readable) .quarter Flip.none
    have threeQuarter := half.plus third
    obtain ⟨whole, wholeRan, fourth⟩ :=
      turnedCopy_eq (threeQuarter.readable readable) .quarter Flip.none
    exact ⟨once, twice, thrice, whole, onceRan, twiceRan, thriceRan, wholeRan,
      (threeQuarter.plus fourth).showsCells readable⟩

/-- Three columns and two rows with a red and a blue corner. -/
def pennant : Pixmap := ((blank 3 2).recolor 0 0 .pureRed).recolor 2 1 .pureBlue

/-- The first turn exchanges the axes, so the second mirror, which is of the rows, undoes
the first one, which is of the columns. -/
theorem turnedCopy_compose_pennant :
    pennant.toSource.Readable ∧
    (∃ once twice, turnedCopy 90 { x := true } pennant.toSource = .ok once ∧
      turnedCopy 270 { y := true } once.toSource = .ok twice ∧
      turnedCopy 0 Flip.none pennant.toSource = .ok twice) ∧
    ∃ there back, turnedCopy 270 Flip.none pennant.toSource = .ok there ∧
      turnedCopy 90 Flip.none there.toSource = .ok back ∧ back.width = 3 ∧
      back.pixel 2 1 = .ok .pureBlue := by
  have readable : pennant.toSource.Readable := pennant.readable_toSource (by decide) (by decide)
  obtain ⟨composed, inverse, -⟩ := turnedCopy_compose readable
  obtain ⟨there, back, thereRan, backRan, restored⟩ := inverse .threeQuarter
  refine ⟨readable, composed .quarter .threeQuarter { x := true } { y := true }, there, back,
    thereRan, backRan, restored.width, ?_⟩
  exact (restored.pixel 2 1 (by decide) (by decide)).trans (by decide)

end Pixmap

end LedMatrix
