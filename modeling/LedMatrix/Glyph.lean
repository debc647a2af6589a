/-
# Glyphs

A glyph is something written in one of the fonts: a digit, a number, a
character or a line of text. All four are a line of bitmaps of one face, so
they share one way of being read: lit cells have the ink colour, and unlit
cells and the columns between two bitmaps have the paper colour, which is also
the background that the glyph declares.
-/

import LedMatrix.Font
import LedMatrix.Source

namespace LedMatrix

/-- What a glyph shows. -/
inductive Lettering where
  | digit (digit : Fin 10)
  | number (number : Nat)
  | character (c : Char)
  | text (text : String)
  deriving DecidableEq

namespace Lettering

/-- A single digit, if there is one. -/
def ofDigit (digit : Nat) : Except CanvasError Lettering :=
  if h : digit < 10 then .ok (.digit ⟨digit, h⟩) else .error (.invalidDigit digit)

/-- The decimal digits of a number, the most significant first. -/
def decimalDigits (number : Nat) : List Nat :=
  (Nat.toDigits 10 number).map fun c => c.toNat - '0'.toNat

/-- The face in which something is written. -/
def face : Lettering → Face
  | digit _ | number _ => .digits
  | character _ | text _ => .characters

/-- The bitmaps of something written, from the left. -/
def bitmaps : Lettering → List Nat
  | digit d => [Font.digitBitmap d.val]
  | number n => (decimalDigits n).map Font.digitBitmap
  | character c => [Font.bitmap c]
  | text s => s.toList.map Font.bitmap

end Lettering

/-- Something written, with its two colours. -/
structure Glyph where
  lettering : Lettering
  /-- The colour of lit cells. -/
  ink : Color := .white
  /-- The colour of all other cells. -/
  paper : Color := .black
  deriving DecidableEq

namespace Glyph

/-- The width of a line of `count` glyphs. -/
def lineWidth (face : Face) (count : Nat) : Nat := count * (face.width + face.gap) - face.gap

/-- Whether cell `(x, y)` of a line of bitmaps is lit. -/
def isLit (face : Face) (bitmaps : Array Nat) (x y : Nat) : Bool :=
  let place := x / (face.width + face.gap)
  let column := x % (face.width + face.gap)
  column < face.width && face.isLit (bitmaps.getD place 0) column y

/-- A glyph as something to read. -/
def toSource (glyph : Glyph) : Source :=
  let face := glyph.lettering.face
  let bitmaps := glyph.lettering.bitmaps.toArray
  let width := lineWidth face bitmaps.size
  { width
    height := face.height
    background := glyph.paper
    pixel := fun x y => do
      let (column, row) ← cellAt x y width face.height
      return if isLit face bitmaps column row then glyph.ink else glyph.paper }

end Glyph

end LedMatrix
