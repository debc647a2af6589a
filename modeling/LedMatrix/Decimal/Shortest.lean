/-
# The shortest decimal of a binary fraction

A positive double is `m * 2 ^ q` with natural `m`. The reals that are rounded
to it form an interval around it; the ends belong to the interval when `m` is
even. `Shortest.find` looks for the coarsest decimal grid that has a point in
this interval, and takes the point nearest to the double. A coarser grid means
fewer digits, so no decimal with fewer digits reads back as the same double.
On a grid it is enough to look at the two neighbours of the double, because an
interval around the double that holds any point of the grid holds one of them.

`Notation` decides how digits and exponent are then written down.
-/

namespace LedMatrix

/-- A decimal `digits * 10 ^ exponent`. -/
structure Decimal where
  digits : Nat
  exponent : Int
  deriving DecidableEq

namespace Decimal

/-- A positive double `significand * 2 ^ exponent`, with the distance to its
lower neighbour halved when it is the least of its binade. -/
structure Binary where
  significand : Nat
  exponent : Int
  /-- The double is the least of its binade and not the least of all. -/
  isBinadeStart : Bool
  deriving DecidableEq

namespace Binary

/-- The leading digit of a significand, `2 ^ 52`, which is not stored. -/
def hiddenBit : Nat := 0x10000000000000

/-- The parts of a double, its sign aside. Infinities and numbers that are not
numbers are taken as if their exponent were an ordinary one. -/
def ofFloat (x : Float) : Binary :=
  let bits := x.toBits.toNat
  let fraction : Nat := bits % hiddenBit
  let biased : Nat := bits / hiddenBit % 2048
  if biased = 0 then ⟨fraction, -1074, false⟩
  else ⟨hiddenBit + fraction, (biased : Int) - 1075, fraction = 0 && biased ≠ 1⟩

end Binary

namespace Shortest

/-- The point of the grid of multiples of `10 ^ place` that reads back as the
double and is nearest to it, if there is one. All lengths are counted in
quarters of the unit `2 ^ exponent`, and both sides are brought to natural
numbers. -/
def onGrid (x : Binary) (place : Int) : Option Nat :=
  let binary := x.exponent - 2
  -- One quarter counts `quarter` and one step of the grid counts `step`.
  let quarter := Nat.pow 2 binary.toNat * Nat.pow 10 (-place).toNat
  let step := Nat.pow 2 (-binary).toNat * Nat.pow 10 place.toNat
  let value := 4 * x.significand * quarter
  let lower := (4 * x.significand - (if x.isBinadeStart then 1 else 2)) * quarter
  let upper := (4 * x.significand + 2) * quarter
  let closed : Bool := x.significand % 2 == 0
  let inside (point : Nat) : Bool :=
    decide (0 < point) && (decide (lower < point * step) || closed && lower == point * step) &&
      (decide (point * step < upper) || closed && point * step == upper)
  let below := value / step
  let above := below + 1
  let fromBelow := value - below * step
  let fromAbove := above * step - value
  match inside below, inside above with
  | false, false => none
  | true, false => some below
  | false, true => some above
  | true, true =>
      if fromBelow < fromAbove ∨ (fromBelow = fromAbove ∧ below % 2 = 0) then some below
      else some above

/-- Try `count` grids from the one of `10 ^ place` towards finer ones. -/
def search (x : Binary) : (count : Nat) → (place : Int) → Decimal
  | 0, place => ⟨0, place⟩
  | count + 1, place =>
      match onGrid x place with
      | some digits => ⟨digits, place⟩
      | none => search x count (place - 1)

/-- The shortest decimal that reads back as the double. Doubles lie below
`10 ^ 309` and are multiples of `2 ^ (-1074)`, so the search ends in between. -/
def find (x : Binary) : Decimal := search x 1400 309

end Shortest

/-- How a decimal is written. -/
structure Notation where
  /-- The least exponent of the leading digit that is written positionally. -/
  positionalFrom : Int
  /-- The greatest such exponent. -/
  positionalTo : Int
  /-- What follows a whole number. -/
  wholeMark : String
  /-- What stands before an exponent that is not negative. -/
  positiveMark : String
  /-- What stands before the size of a negative exponent. -/
  negativeMark : String

namespace Notation

/-- A run of zeros. -/
private def zeros (count : Int) : String := String.ofList (List.replicate count.toNat '0')

/-- The written form of a decimal. -/
def render (style : Notation) (decimal : Decimal) : String :=
  let digits := (Nat.toDigits 10 decimal.digits)
  let leading := decimal.exponent + (digits.length - 1 : Int)
  if style.positionalFrom ≤ leading ∧ leading ≤ style.positionalTo then
    if 0 ≤ decimal.exponent then
      String.ofList digits ++ zeros decimal.exponent ++ style.wholeMark
    else if 0 ≤ leading then
      String.ofList (digits.take (leading + 1).toNat) ++ "."
        ++ String.ofList (digits.drop (leading + 1).toNat)
    else "0." ++ zeros (-leading - 1) ++ String.ofList digits
  else
    let tail := digits.drop 1
    let mark := if leading < 0 then style.negativeMark else style.positiveMark
    String.ofList (digits.take 1) ++ (if tail.isEmpty then "" else "." ++ String.ofList tail)
      ++ mark ++ toString leading.natAbs

/-- The written form of a double: its shortest decimal, with its sign. Zero has
no shortest decimal and is written as a whole number. -/
def renderFloat (style : Notation) (x : Float) : String :=
  let sign := if 0x8000000000000000 ≤ x.toBits.toNat then "-" else ""
  let binary := Binary.ofFloat x
  if binary.significand = 0 then sign ++ "0" ++ style.wholeMark
  else sign ++ style.render (Shortest.find binary)

end Notation

end Decimal

end LedMatrix
