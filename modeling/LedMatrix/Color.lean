/-
# Colours

A colour is one number of 24 bits: red in the high byte, green in the middle
byte and blue in the low byte. There is no alpha channel; whether a cell is
see-through is decided by comparing its colour with a background colour, so
equality of colours is the only test the rest of the library needs.
-/

namespace LedMatrix

/-- A colour packed as `0xRRGGBB`. -/
structure Color where
  /-- The packed number, below `2 ^ 24`. -/
  packed : Fin 0x1000000
  deriving DecidableEq

namespace Color

/-- The colour a number names: all but its low 24 bits are dropped. -/
def ofNat (raw : Nat) : Color := ⟨Fin.ofNat 0x1000000 raw⟩

/-- The packed number of a colour. -/
def toNat (c : Color) : Nat := c.packed.val

/-- The colour with the given components. -/
def rgb (r g b : UInt8) : Color := ofNat (r.toNat * 0x10000 + g.toNat * 0x100 + b.toNat)

/-- The red component. -/
def red (c : Color) : UInt8 := UInt8.ofNat (c.toNat / 0x10000)

/-- The green component. -/
def green (c : Color) : UInt8 := UInt8.ofNat (c.toNat / 0x100)

/-- The blue component. -/
def blue (c : Color) : UInt8 := UInt8.ofNat c.toNat

def black : Color := ofNat 0x000000
def white : Color := ofNat 0xFFFFFF
def pureRed : Color := ofNat 0xFF0000
def pureGreen : Color := ofNat 0x00FF00
def pureBlue : Color := ofNat 0x0000FF

/-- A colour that nobody chose is black. -/
instance : Inhabited Color := ⟨black⟩

theorem toNat_lt (c : Color) : c.toNat < 0x1000000 := c.packed.isLt

@[simp] theorem toNat_ofNat (raw : Nat) : (ofNat raw).toNat = raw % 0x1000000 := rfl

@[simp] theorem ofNat_toNat (c : Color) : ofNat c.toNat = c := by
  cases c with
  | mk packed => simp [ofNat, toNat, Fin.ofNat, Nat.mod_eq_of_lt packed.isLt]

/-- The digit that stands for `n` in base sixteen, letters in upper case. -/
private def upperDigit (n : Nat) : Char :=
  if n < 10 then Char.ofNat (48 + n) else Char.ofNat (55 + n)

/-- The six hexadecimal digits of a colour, most significant first. -/
def hex (c : Color) : String :=
  String.ofList ([5, 4, 3, 2, 1, 0].map fun place => upperDigit (c.toNat / Nat.pow 16 place % 16))

/-- The written form of a colour, such as `#FF8000`. -/
def display (c : Color) : String := "#" ++ c.hex

end Color

end LedMatrix
