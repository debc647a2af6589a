/-
# Bitmap fonts

A glyph is a small bitmap written as one number. Its rows follow each other
from the top, and within a row the leftmost cell is the most significant bit,
so the lowest bit is the lower right cell. There is a 3x5 font for digits and
a 4x8 font for the printable characters from the space to the tilde; every
other character shows an inverted question mark.
-/

namespace LedMatrix

/-- The measures of a font: the size of a glyph and the blank columns between
two glyphs on a line. -/
structure Face where
  width : Nat
  height : Nat
  gap : Nat
  deriving DecidableEq

namespace Face

/-- The face of the digits. -/
def digits : Face := ⟨3, 5, 1⟩

/-- The face of the printable characters, which leaves no space between them. -/
def characters : Face := ⟨4, 8, 0⟩

/-- Whether cell `(x, y)` of a bitmap is lit. -/
def isLit (face : Face) (bitmap x y : Nat) : Bool :=
  bitmap.testBit ((face.height - 1 - y) * face.width + (face.width - 1 - x))

/-- The number of bits of a bitmap. -/
def bitmapBits : Nat := 32

/-- Whether a bitmap has a bit for every cell of a glyph. -/
def isBitmapped (face : Face) : Bool := decide (face.width * face.height ≤ bitmapBits)

end Face

namespace Font

/-- The bitmaps of the digits from 0 to 9. -/
def digitBitmaps : Array Nat := #[
  0b111_101_101_101_111,
  0b010_010_010_010_010,
  0b111_001_111_100_111,
  0b111_001_111_001_111,
  0b101_101_111_001_001,
  0b111_100_111_001_111,
  0b111_100_111_101_111,
  0b111_001_001_001_001,
  0b111_101_111_101_111,
  0b111_101_111_001_111]

/-- The bitmaps of the printable characters, the space first. -/
def characterBitmaps : Array Nat := #[
  0b0000_0000_0000_0000_0000_0000_0000_0000,
  0b0000_0100_0100_0100_0100_0000_0100_0000,
  0b0000_1010_1010_0000_0000_0000_0000_0000,
  0b0000_1010_1110_1010_1010_1110_1010_0000,
  0b0000_0100_1110_1100_0110_0110_1100_0100,
  0b0000_0000_1010_0010_0100_1000_1010_0000,
  0b0000_0100_1010_0100_1010_1000_0110_0000,
  0b0000_0000_0100_0100_0000_0000_0000_0000,
  0b0000_0010_0100_0100_0100_0100_0100_0010,
  0b0000_1000_0100_0100_0100_0100_0100_1000,
  0b0000_0000_0100_1110_0100_1010_0000_0000,
  0b0000_0000_0000_0100_1110_0100_0000_0000,
  0b0000_0000_0000_0000_0000_0000_0100_1000,
  0b0000_0000_0000_0000_1110_0000_0000_0000,
  0b0000_0000_0000_0000_0000_0000_0100_0000,
  0b0000_0010_0010_0100_0100_0100_1000_1000,
  0b0000_0100_1010_1110_1010_1010_0100_0000,
  0b0000_0100_1100_0100_0100_0100_1110_0000,
  0b0000_1100_0010_0010_0100_1000_1110_0000,
  0b0000_1100_0010_0100_0010_0010_1100_0000,
  0b0000_0010_0110_1010_1010_1110_0010_0000,
  0b0000_1110_1000_1100_0010_0010_1100_0000,
  0b0000_0110_1000_1100_1010_1010_0100_0000,
  0b0000_1110_0010_0010_0100_0100_0100_0000,
  0b0000_0100_1010_0100_1010_1010_0100_0000,
  0b0000_0100_1010_1010_0110_0010_1100_0000,
  0b0000_0000_0000_0100_0000_0000_0100_0000,
  0b0000_0000_0000_0100_0000_0000_0100_1000,
  0b0000_0000_0010_0100_1000_0100_0010_0000,
  0b0000_0000_0000_1110_0000_1110_0000_0000,
  0b0000_0000_1000_0100_0010_0100_1000_0000,
  0b0000_0100_1010_0010_0100_0000_0100_0000,
  0b0000_0100_1010_1110_1110_1000_0110_0000,
  0b0000_0100_1010_1010_1110_1010_1010_0000,
  0b0000_1100_1010_1100_1010_1010_1100_0000,
  0b0000_0110_1000_1000_1000_1000_0110_0000,
  0b0000_1100_1010_1010_1010_1010_1100_0000,
  0b0000_1110_1000_1110_1000_1000_1110_0000,
  0b0000_1110_1000_1110_1000_1000_1000_0000,
  0b0000_0110_1000_1000_1010_1010_0110_0000,
  0b0000_1010_1010_1110_1010_1010_1010_0000,
  0b0000_1110_0100_0100_0100_0100_1110_0000,
  0b0000_0010_0010_0010_0010_1010_0100_0000,
  0b0000_1010_1010_1100_1010_1010_1010_0000,
  0b0000_1000_1000_1000_1000_1000_1110_0000,
  0b0000_1010_1110_1110_1010_1010_1010_0000,
  0b0000_1100_1010_1010_1010_1010_1010_0000,
  0b0000_0100_1010_1010_1010_1010_0100_0000,
  0b0000_1100_1010_1010_1100_1000_1000_0000,
  0b0000_0100_1010_1010_1010_1010_0100_0010,
  0b0000_1100_1010_1010_1100_1010_1010_0000,
  0b0000_0110_1000_0100_0010_0010_1100_0000,
  0b0000_1110_0100_0100_0100_0100_0100_0000,
  0b0000_1010_1010_1010_1010_1010_1110_0000,
  0b0000_1010_1010_1010_1010_1100_1000_0000,
  0b0000_1010_1010_1010_1110_1110_1010_0000,
  0b0000_1010_1010_0100_0100_1010_1010_0000,
  0b0000_1010_1010_1010_0100_0100_0100_0000,
  0b0000_1110_0010_0100_0100_1000_1110_0000,
  0b0000_0110_0100_0100_0100_0100_0100_0110,
  0b0000_1000_1000_0100_0100_0100_0010_0010,
  0b0000_0110_0010_0010_0010_0010_0010_0110,
  0b0000_0100_1010_0000_0000_0000_0000_0000,
  0b0000_0000_0000_0000_0000_0000_0000_1110,
  0b0000_0100_0010_0000_0000_0000_0000_0000,
  0b0000_0000_0000_0110_1010_1010_0110_0000,
  0b0000_1000_1000_1100_1010_1010_1100_0000,
  0b0000_0000_0000_0110_1000_1000_0110_0000,
  0b0000_0010_0010_0110_1010_1010_0110_0000,
  0b0000_0000_0000_0110_1010_1100_0110_0000,
  0b0000_0010_0100_1110_0100_0100_0100_0000,
  0b0000_0000_0000_0110_1010_0110_0010_1100,
  0b0000_1000_1000_1100_1010_1010_1010_0000,
  0b0000_0100_0000_1100_0100_0100_1110_0000,
  0b0000_0010_0000_1110_0010_0010_0010_1100,
  0b0000_1000_1000_1010_1100_1010_1010_0000,
  0b0000_1100_0100_0100_0100_0100_0110_0000,
  0b0000_0000_0000_1100_1110_1110_1010_0000,
  0b0000_0000_0000_1100_1010_1010_1010_0000,
  0b0000_0000_0000_0100_1010_1010_0100_0000,
  0b0000_0000_0000_1100_1010_1010_1100_1000,
  0b0000_0000_0000_0110_1010_1010_0110_0010,
  0b0000_0000_0000_1010_1100_1000_1000_0000,
  0b0000_0000_0000_0110_1100_0110_1100_0000,
  0b0000_0000_0100_1110_0100_0100_0010_0000,
  0b0000_0000_0000_1010_1010_1010_0110_0000,
  0b0000_0000_0000_1010_1010_1100_1000_0000,
  0b0000_0000_0000_1010_1010_1110_1110_0000,
  0b0000_0000_0000_1010_0100_1010_1010_0000,
  0b0000_0000_0000_1010_1010_0110_0010_1100,
  0b0000_0000_0000_1110_0100_1000_1110_0000,
  0b0000_0010_0100_0100_1000_0100_0100_0010,
  0b0000_0100_0100_0100_0100_0100_0100_0100,
  0b0000_1000_0100_0100_0010_0100_0100_1000,
  0b0000_0000_0000_1100_0110_0000_0000_0000]

/-- The bitmap of every character that the font does not have. -/
def unknownBitmap : Nat := 0b1111_1011_0101_1101_1011_1111_1011_1111

/-- The bitmap of a character. -/
def bitmap (c : Char) : Nat :=
  if c.toNat < 0x20 then unknownBitmap
  else characterBitmaps.getD (c.toNat - 0x20) unknownBitmap

/-- The bitmap of a digit below ten. -/
def digitBitmap (digit : Nat) : Nat := digitBitmaps.getD digit 0

end Font

end LedMatrix
