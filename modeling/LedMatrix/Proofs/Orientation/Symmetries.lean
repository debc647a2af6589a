/-
# Turns and mirrors

The way from a logical cell to the physical one is a turn followed by mirrors
(`physical_eq_turned`). Turns add up, mirrors on the same side of a turn cancel in pairs,
and a mirror can be taken past a turn if its axes are turned with it (`physical_mirrored`).
So every way of turning and mirroring a rectangle, one after the other, comes to one turn
and one set of mirrors (`physical_physical`).

The mirrors of a set are counted bit by bit, also those without a meaning, which play no
part in any of this.
-/

import LedMatrix.Proofs.Orientation.Bijection

namespace LedMatrix

namespace Flip

/-- The mirrors that are in one of two sets and not in the other, bit by bit. -/
def symmDiff (first second : Flip) : Flip := ofBits (first.bits ^^^ second.bits)

/-- The mirrors with the axes exchanged. -/
def exchanged (flip : Flip) : Flip := { flip with x := flip.y, y := flip.x }

/-- The mirrors as they lie behind a turn, which may exchange the axes. -/
def behind (flip : Flip) (rotation : Rotation) : Flip :=
  if rotation.isTransposed then flip.exchanged else flip

theorem testBit_bits (flip : Flip) :
    flip.bits.testBit 0 = flip.x ∧ flip.bits.testBit 1 = flip.y := by
  obtain ⟨x, y, rest⟩ := flip
  cases x <;> cases y <;> simp [bits, Nat.testBit_eq_decide_div_mod_eq] <;> omega

@[simp] theorem x_symmDiff (first second : Flip) :
    (first.symmDiff second).x = (first.x ^^ second.x) :=
  calc (first.symmDiff second).x
      = (first.bits.testBit 0 ^^ second.bits.testBit 0) := Nat.testBit_xor first.bits second.bits 0
    _ = (first.x ^^ second.x) := by rw [first.testBit_bits.1, second.testBit_bits.1]

@[simp] theorem y_symmDiff (first second : Flip) :
    (first.symmDiff second).y = (first.y ^^ second.y) :=
  calc (first.symmDiff second).y
      = (first.bits.testBit 1 ^^ second.bits.testBit 1) := Nat.testBit_xor first.bits second.bits 1
    _ = (first.y ^^ second.y) := by rw [first.testBit_bits.2, second.testBit_bits.2]

/-- Two mirrors of the columns cancel. -/
theorem column_column_eq (first second : Flip) {width x : Nat} (inside : x < width) :
    first.column width (second.column width x) = (first.symmDiff second).column width x := by
  unfold column
  rw [x_symmDiff]
  cases first.x <;> cases second.x <;> simp
  omega

/-- Two mirrors of the rows cancel. -/
theorem row_row_eq (first second : Flip) {height y : Nat} (inside : y < height) :
    first.row height (second.row height y) = (first.symmDiff second).row height y := by
  unfold row
  rw [y_symmDiff]
  cases first.y <;> cases second.y <;> simp
  omega

theorem column_exchanged (flip : Flip) (length cell : Nat) :
    flip.exchanged.column length cell = flip.row length cell := rfl

theorem row_exchanged (flip : Flip) (length cell : Nat) :
    flip.exchanged.row length cell = flip.column length cell := rfl

/-- It does not matter from which end the columns are counted. -/
theorem column_reverse (flip : Flip) (width x : Nat) :
    flip.column width (width - 1 - x) = width - 1 - flip.column width x := by
  unfold column
  split <;> omega

/-- It does not matter from which end the rows are counted. -/
theorem row_reverse (flip : Flip) (height y : Nat) :
    flip.row height (height - 1 - y) = height - 1 - flip.row height y := by
  unfold row
  split <;> omega

end Flip

namespace Rotation

/-- The turn by a quarter more. -/
def next : Rotation → Rotation
  | upright => quarter
  | quarter => half
  | half => threeQuarter
  | threeQuarter => upright

/-- Two turns, one after the other. -/
def plus (first : Rotation) : Rotation → Rotation
  | upright => first
  | quarter => first.next
  | half => first.next.next
  | threeQuarter => first.next.next.next

/-- Turns add up, and a whole turn is none. -/
theorem degrees_plus (first second : Rotation) :
    (first.plus second).degrees = (first.degrees + second.degrees) % 360 := by
  cases first <;> cases second <;> rfl

@[simp] theorem plus_inverse (turn : Rotation) : turn.plus turn.inverse = upright := by
  cases turn <;> rfl

/-- Two turns exchange the axes if one of them does. -/
theorem isTransposed_plus (first second : Rotation) :
    (first.plus second).isTransposed = (first.isTransposed ^^ second.isTransposed) := by
  cases first <;> cases second <;> rfl

end Rotation

namespace Orientation

/-- Mirroring the picture is mirroring the panel behind the turn. -/
theorem physical_mirrored (o : Orientation) (flip : Flip) {x y : Nat} (hx : x < o.width)
    (hy : y < o.height) :
    o.physical (flip.column o.width x) (flip.row o.height y) =
      (o.withRotation o.rotation (o.flip.symmDiff (flip.behind o.rotation))).physical x y := by
  unfold width at hx ⊢
  unfold height at hy ⊢
  unfold physical withRotation Flip.behind
  cases turn : o.rotation <;>
    simp only [turn, Rotation.isTransposed, if_true, Bool.false_eq_true, if_false] at hx hy ⊢
  case upright => rw [o.flip.column_column_eq flip hx, o.flip.row_row_eq flip hy]
  case quarter =>
    have below : o.physicalHeight - 1 - x < o.physicalHeight := by omega
    rw [← o.flip.column_column_eq _ hy, ← o.flip.row_row_eq _ below, flip.column_exchanged,
      flip.row_exchanged, flip.column_reverse]
  case half =>
    have across : o.physicalWidth - 1 - x < o.physicalWidth := by omega
    have below : o.physicalHeight - 1 - y < o.physicalHeight := by omega
    rw [← o.flip.column_column_eq _ across, ← o.flip.row_row_eq _ below, flip.column_reverse,
      flip.row_reverse]
  case threeQuarter =>
    have across : o.physicalWidth - 1 - y < o.physicalWidth := by omega
    rw [← o.flip.column_column_eq _ across, ← o.flip.row_row_eq _ hx, flip.column_exchanged,
      flip.row_exchanged, flip.row_reverse]

/-- Where the turn takes a logical cell, before the mirrors. -/
def turned (o : Orientation) (x y : Nat) : Nat × Nat :=
  match o.rotation with
  | .upright => (x, y)
  | .quarter => (y, o.physicalHeight - 1 - x)
  | .half => (o.physicalWidth - 1 - x, o.physicalHeight - 1 - y)
  | .threeQuarter => (o.physicalWidth - 1 - y, x)

theorem physical_eq_turned (o : Orientation) (x y : Nat) :
    o.physical x y =
      (o.flip.column o.physicalWidth (o.turned x y).1,
        o.flip.row o.physicalHeight (o.turned x y).2) := by
  unfold physical turned
  cases o.rotation <;> rfl

theorem turned_lt (o : Orientation) {x y : Nat} (hx : x < o.width) (hy : y < o.height) :
    (o.turned x y).1 < o.physicalWidth ∧ (o.turned x y).2 < o.physicalHeight :=
  (o.withRotation o.rotation Flip.none).physical_lt hx hy

section Composition

variable {o inner : Orientation} (width : inner.physicalWidth = o.width)
  (height : inner.physicalHeight = o.height)
include width height

/-- A picture of a picture has the size that both turns together give it. -/
theorem size_plus (flip : Flip) :
    (o.withRotation (o.rotation.plus inner.rotation) flip).width = inner.width ∧
      (o.withRotation (o.rotation.plus inner.rotation) flip).height = inner.height := by
  unfold Orientation.width Orientation.height at *
  rw [width, height]
  simp only [withRotation, Rotation.isTransposed_plus]
  cases o.rotation.isTransposed <;> cases inner.rotation.isTransposed <;> exact ⟨rfl, rfl⟩

/-- Two turns take a cell where their sum takes it. -/
theorem turned_turned (flip : Flip) {x y : Nat} (hx : x < inner.width) (hy : y < inner.height) :
    o.turned (inner.turned x y).1 (inner.turned x y).2 =
      (o.withRotation (o.rotation.plus inner.rotation) flip).turned x y := by
  unfold Orientation.width Orientation.height at *
  unfold turned withRotation
  cases outer : o.rotation <;> cases turn : inner.rotation <;>
    simp only [outer, turn, Rotation.isTransposed, Rotation.plus, Rotation.next, if_true,
      Bool.false_eq_true, if_false, Prod.mk.injEq, true_and, and_true] at width height hx hy ⊢ <;>
    omega

/-- **Orientations compose.** A picture of a picture lies on the panel as both turns
together lay it, with the inner mirrors taken past the outer turn. -/
theorem physical_physical {x y : Nat} (hx : x < inner.width) (hy : y < inner.height) :
    o.physical (inner.physical x y).1 (inner.physical x y).2 =
      (o.withRotation (o.rotation.plus inner.rotation)
        (o.flip.symmDiff (inner.flip.behind o.rotation))).physical x y := by
  have inside := inner.turned_lt hx hy
  rw [width, height] at inside
  rw [inner.physical_eq_turned, width, height,
    o.physical_mirrored inner.flip inside.1 inside.2, physical_eq_turned, physical_eq_turned,
    ← turned_turned width height _ hx hy]
  rfl

end Composition

end Orientation

end LedMatrix
