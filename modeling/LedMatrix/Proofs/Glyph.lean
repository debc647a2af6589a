/-
# Reading glyphs

Painting stops at the first cell that cannot be read and what was painted before stays, so a
line of text is written wholly or not at all only because a glyph can always be read. To read
one cell, digits are looked up in a font, the column is divided by the room that one bitmap
takes, and a bit is picked out of the bitmap found there. `Glyph.checkedPixel?` is this reading
with a way out at every step that might have no result: a length that would become negative, a
character that is no digit, a place behind the end of a table, a bit that a bitmap does not
have. No way out is ever taken, inside the glyph or outside, and what is read is what the
source of the glyph shows (`Glyph.checkedPixel?_eq`).

The width of a line grows with what is written. Numbers of one word and texts of fewer than
`textLimit` characters stay below the limit for lengths (`Glyph.readable_toSource`).
-/

import LedMatrix.Glyph
import LedMatrix.Json.Numeral
import LedMatrix.Proofs.Pixmap.Cells
import LedMatrix.Proofs.Source

namespace LedMatrix

/-! ## Bitmaps -/

namespace Face

/-- Whether a cell of a bitmap is lit. The place of its bit is worked out from the distances to
the lower right corner. -/
def checkedLit? (face : Face) (bitmap x y : Nat) : Option Bool := do
  let below ← Layout.mirrored? face.height y
  let beside ← Layout.mirrored? face.width x
  let place := below * face.width + beside
  if place < bitmapBits then some (bitmap.testBit place) else none

/-- A cell of a glyph has a bit if the bitmap is large enough. -/
theorem checkedLit?_eq {face : Face} (bitmapped : face.isBitmapped = true) {x y : Nat}
    (hx : x < face.width) (hy : y < face.height) (bitmap : Nat) :
    face.checkedLit? bitmap x y = some (face.isLit bitmap x y) := by
  have room : face.width * face.height ≤ bitmapBits := of_decide_eq_true bitmapped
  have beside : face.width - 1 - x < face.width := by omega
  have below : face.height - 1 - y < face.height := by omega
  -- Bits are numbered like the cells of a raster, from the opposite corner.
  have place : (face.height - 1 - y) * face.width + (face.width - 1 - x) < bitmapBits :=
    Nat.lt_of_lt_of_le (Layout.raster.index_lt beside below) room
  rw [checkedLit?, Layout.mirrored?_of_lt hx, Layout.mirrored?_of_lt hy]
  exact if_pos place

end Face

namespace Font

/-- The bitmap of a digit as it is written. -/
def checkedDigit? (c : Char) : Option Nat :=
  if '0'.toNat ≤ c.toNat then digitBitmaps[c.toNat - '0'.toNat]? else none

/-- The bitmap of a character. The table is only asked for characters that it has. -/
def checkedCharacter? (c : Char) : Option Nat :=
  if 0x20 ≤ c.toNat ∧ c.toNat < 0x20 + characterBitmaps.size then
    characterBitmaps[c.toNat - 0x20]?
  else some unknownBitmap

theorem checkedDigit?_eq {c : Char} (isDigit : c.isDigit = true) :
    checkedDigit? c = some (digitBitmap (c.toNat - '0'.toNat)) := by
  have bounds : '0'.toNat ≤ c.toNat ∧ c.toNat ≤ '9'.toNat := by
    simp only [Char.isDigit, Bool.and_eq_true, decide_eq_true_eq] at isDigit
    exact isDigit
  have value : c.toNat - '0'.toNat < digitBitmaps.size := by
    have last : '9'.toNat - '0'.toNat < digitBitmaps.size := by decide
    omega
  rw [checkedDigit?, if_pos bounds.1, digitBitmap, Array.getD_eq_getD_getElem?,
    Array.getElem?_eq_getElem value, Option.getD_some]

theorem checkedCharacter?_eq (c : Char) : checkedCharacter? c = some (bitmap c) := by
  unfold checkedCharacter? bitmap
  by_cases early : c.toNat < 0x20
  · rw [if_neg (by omega), if_pos early]
  · rw [if_neg early, Array.getD_eq_getD_getElem?]
    by_cases known : c.toNat - 0x20 < characterBitmaps.size
    · rw [if_pos (by omega), Array.getElem?_eq_getElem known, Option.getD_some]
    · rw [if_neg (by omega), Array.getElem?_eq_none (by omega), Option.getD_none]

end Font

/-! ## Lines of bitmaps -/

namespace Lettering

/-- The bitmaps of something written, each looked up in its font. -/
def checkedBitmaps? : Lettering → Option (List Nat)
  | digit d => [d.val].mapM (Font.digitBitmaps[·]?)
  | number n => (Nat.toDigits 10 n).mapM Font.checkedDigit?
  | character c => [c].mapM Font.checkedCharacter?
  | text s => s.toList.mapM Font.checkedCharacter?

/-- A list is looked up wholly if each of its members is found. -/
private theorem mapM_eq_map {α β : Type} {found? : α → Option β} {find : α → β} {wanted : List α}
    (each : ∀ one ∈ wanted, found? one = some (find one)) :
    wanted.mapM found? = some (wanted.map find) := by
  induction wanted with
  | nil => rfl
  | cons one rest ih =>
      obtain ⟨here, later⟩ := List.forall_mem_cons.mp each
      rw [List.mapM_cons, here, ih later]
      rfl

/-- Everything that can be written has its bitmaps. -/
theorem checkedBitmaps?_eq (lettering : Lettering) :
    lettering.checkedBitmaps? = some lettering.bitmaps := by
  cases lettering with
  | digit d =>
      have inside : d.val < Font.digitBitmaps.size := d.isLt
      apply mapM_eq_map
      intro one member
      rw [List.mem_singleton.mp member, Font.digitBitmap, Array.getD_eq_getD_getElem?,
        Array.getElem?_eq_getElem inside, Option.getD_some]
  | number n =>
      rw [checkedBitmaps?, bitmaps, decimalDigits, List.map_map]
      apply mapM_eq_map
      intro c member
      exact Font.checkedDigit?_eq (Nat.isDigit_of_mem_toDigits (by decide) (by decide) member)
  | character c => exact mapM_eq_map fun c _ => Font.checkedCharacter?_eq c
  | text s => exact mapM_eq_map fun c _ => Font.checkedCharacter?_eq c

theorem face_isBitmapped (lettering : Lettering) : lettering.face.isBitmapped = true := by
  cases lettering <;> rfl

theorem face_height_lt (lettering : Lettering) : lettering.face.height < lengthLimit := by
  have digits : Face.digits.height < lengthLimit := by decide
  have characters : Face.characters.height < lengthLimit := by decide
  cases lettering
  · exact digits
  · exact digits
  · exact characters
  · exact characters

/-- A line has at least the gap that its width leaves out: digits are kept apart, and a number
has at least one. -/
theorem gap_le (lettering : Lettering) :
    lettering.face.gap ≤
      lettering.bitmaps.length * (lettering.face.width + lettering.face.gap) := by
  cases lettering with
  | digit d =>
      show (1 : Nat) ≤ 1 * (3 + 1)
      decide
  | number n =>
      have digits : 0 < (Nat.toDigits 10 n).length := Nat.length_toDigits_pos
      simp only [face, Face.digits, bitmaps, decimalDigits, List.length_map]
      omega
  | character c => exact Nat.zero_le _
  | text s => exact Nat.zero_le _

/-- Texts are shorter than this, so that a line of them is narrow enough. -/
def textLimit : Nat := 0x20000000

/-- What is written takes part in a command: a number of one word, or a text that is not too
long. -/
def Fits : Lettering → Prop
  | digit _ | character _ => True
  | number n => n ≤ Json.Numeral.maxWord
  | text s => s.length < textLimit

/-- The width of a line is a length of 32 bits. -/
theorem Fits.lineWidth_lt {lettering : Lettering} (fits : lettering.Fits) :
    Glyph.lineWidth lettering.face lettering.bitmaps.length < lengthLimit := by
  cases lettering with
  | digit d =>
      show 1 * (3 + 1) - 1 < lengthLimit
      decide
  | number n =>
      have word : n < 10 ^ 20 := Nat.lt_of_le_of_lt fits (by decide)
      have digits : (Nat.toDigits 10 n).length ≤ 20 :=
        (Nat.length_toDigits_le_iff (by decide) (by decide)).mpr word
      simp only [Glyph.lineWidth, face, Face.digits, bitmaps, decimalDigits, List.length_map,
        lengthLimit]
      omega
  | character c =>
      show 1 * (4 + 0) - 0 < lengthLimit
      decide
  | text s =>
      have short : s.length < 0x20000000 := fits
      simp only [Glyph.lineWidth, face, Face.characters, bitmaps, List.length_map, lengthLimit,
        String.length_toList]
      omega

end Lettering

namespace Glyph

/-! ## Cells -/

/-- The width of a line of glyphs, from which the gap behind the last one is taken away. -/
def checkedWidth? (face : Face) (count : Nat) : Option Nat :=
  let room := count * (face.width + face.gap)
  if face.gap ≤ room then some (room - face.gap) else none

/-- What is read at a cell of a glyph or next to it. -/
def checkedPixel? (glyph : Glyph) (x y : Int) : Option (Except CanvasError Color) := do
  let face := glyph.lettering.face
  let bitmaps ← glyph.lettering.checkedBitmaps?
  let width ← checkedWidth? face bitmaps.length
  match cellAt x y width face.height with
  | .error cause => return .error cause
  | .ok (column, row) =>
      let within := column % (face.width + face.gap)
      if within < face.width then
        let bitmap ← bitmaps[column / (face.width + face.gap)]?
        let lit ← face.checkedLit? bitmap within row
        return .ok (if lit then glyph.ink else glyph.paper)
      else return .ok glyph.paper

/-- A cell of a glyph is lit or it is not. -/
theorem pixel_toSource_of_lt (glyph : Glyph) {x y : Nat} (hx : x < glyph.toSource.width)
    (hy : y < glyph.toSource.height) :
    glyph.toSource.pixel x y =
      .ok (if isLit glyph.lettering.face glyph.lettering.bitmaps.toArray x y then glyph.ink
        else glyph.paper) := by
  have cell : cellAt x y glyph.toSource.width glyph.toSource.height = .ok (x, y) :=
    cellAt_of_lt hx hy
  show (cellAt x y glyph.toSource.width glyph.toSource.height >>= _) = _
  rw [cell]
  rfl

/-- **No step of reading a glyph goes wrong**, wherever it is read. -/
theorem checkedPixel?_eq (glyph : Glyph) (x y : Int) :
    glyph.checkedPixel? x y = some (glyph.toSource.pixel x y) := by
  have width : checkedWidth? glyph.lettering.face glyph.lettering.bitmaps.length =
      some glyph.toSource.width := if_pos glyph.lettering.gap_le
  unfold checkedPixel?
  simp only [glyph.lettering.checkedBitmaps?_eq, Option.bind_eq_bind, Option.bind_some, width]
  cases cell : cellAt x y glyph.toSource.width glyph.lettering.face.height with
  | error cause =>
      show _ = some (cellAt x y glyph.toSource.width glyph.lettering.face.height >>= _)
      rw [cell]
      rfl
  | ok found =>
      obtain ⟨column, row⟩ := found
      obtain ⟨rfl, rfl, hx, hy⟩ := cellAt_eq_ok.mp cell
      rw [pixel_toSource_of_lt glyph hx hy]
      dsimp only
      split
      · next within =>
          have place : column / (glyph.lettering.face.width + glyph.lettering.face.gap) <
              glyph.lettering.bitmaps.length := by
            apply Nat.div_lt_of_lt_mul
            rw [Nat.mul_comm]
            exact Nat.lt_of_lt_of_le hx (Nat.sub_le _ _)
          rw [List.getElem?_eq_getElem place]
          simp only [Option.bind_some,
            Face.checkedLit?_eq glyph.lettering.face_isBitmapped within hy]
          simp [isLit, within, place]
      · next beyond => simp [isLit, beyond]

/-- A glyph that takes part in a command is a well-behaved source. -/
theorem readable_toSource {glyph : Glyph} (fits : glyph.lettering.Fits) :
    glyph.toSource.Readable where
  width_lt := fits.lineWidth_lt
  height_lt := glyph.lettering.face_height_lt
  pixel_ok _ _ hx hy := ⟨_, pixel_toSource_of_lt glyph hx hy⟩

end Glyph

end LedMatrix
