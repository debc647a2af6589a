/-
# Reading numbers of hosts

A number of 32 bits is written in two ways. The strict one is four bytes in
decimal without needless zeros. The loose one has one to four parts in base
eight, ten or sixteen, of which the last fills all bytes that are left, so that
`127.1` and `0x7f000001` are the same host.

A number of 128 bits is eight groups of up to four hexadecimal digits. Two
colons may stand once for one or more groups of zeros, and the last two groups
may be written as a strict number of 32 bits.
-/

import LedMatrix.IpAddress.Basic
import LedMatrix.Text.Digits
import LedMatrix.Text.Pieces

namespace LedMatrix.IpAddress

/-- The greatest number of 32 bits. -/
def maxV4 : Nat := 0xFFFFFFFF

/-! ## Numbers of 32 bits -/

/-- A byte in decimal, without needless zeros. -/
def strictByte? : List Char → Option Nat
  | '0' :: _ :: _ => none
  | digits => Text.number? 10 0xFF digits

/-- A number of 32 bits in its strict form. -/
def strict? (text : List Char) : Option Nat :=
  match (Text.piecesAt '.' text).mapM strictByte? with
  | some [a, b, c, d] => some (((a * 256 + b) * 256 + c) * 256 + d)
  | _ => none

/-- A part of a loose form. A zero in front announces base eight, and with an
`x` behind it base sixteen. -/
def loosePart? : List Char → Option Nat
  | '0' :: c :: digits =>
      if c = 'x' ∨ c = 'X' then Text.number? 16 maxV4 digits
      else Text.number? 8 maxV4 (c :: digits)
  | digits => Text.number? 10 maxV4 digits

/-- The number of the given parts. Every part but the last is one byte, and the
last fills the bytes that are left of four. -/
def ofParts? : List Nat → Option Nat
  | [last] => some last
  | [a, last] => if a < 0x100 ∧ last < 0x1000000 then some (a * 0x1000000 + last) else none
  | [a, b, last] =>
      if a < 0x100 ∧ b < 0x100 ∧ last < 0x10000 then some ((a * 0x100 + b) * 0x10000 + last)
      else none
  | [a, b, c, last] =>
      if a < 0x100 ∧ b < 0x100 ∧ c < 0x100 ∧ last < 0x100 then
        some (((a * 0x100 + b) * 0x100 + c) * 0x100 + last)
      else none
  | _ => none

/-- A number of 32 bits in a loose form. -/
def loose? (text : List Char) : Option IpAddress := do
  let number ← ofParts? (← (Text.piecesAt '.' text).mapM loosePart?)
  return .v4 number.toUInt32

/-! ## Numbers of 128 bits -/

/-- A group of one to four hexadecimal digits. -/
def group? (digits : List Char) : Option UInt16 :=
  if digits.length ≤ 4 then (Text.number? 16 0xFFFF digits).map Nat.toUInt16 else none

/-- Groups of which the last may be a number of 32 bits in its strict form. -/
def groups? : List (List Char) → Option (List UInt16)
  | [] => some []
  | [last] =>
      match strict? last with
      | some number => some [(number / 0x10000).toUInt16, number.toUInt16]
      | none => (group? last).map ([·])
  | piece :: pieces => do return (← group? piece) :: (← groups? pieces)

/-- The text before the first two colons that stand together, and the text after
them. -/
def cutAtGap : List Char → Option (List Char × List Char)
  | ':' :: ':' :: rest => some ([], rest)
  | c :: rest => (cutAtGap rest).map fun (front, back) => (c :: front, back)
  | [] => none

/-- The groups before or after a gap; there may be none. -/
def side? (read : List (List Char) → Option (List UInt16)) (text : List Char) :
    Option (List UInt16) :=
  if text.isEmpty then some [] else read (Text.piecesAt ':' text)

/-- A number of 128 bits. -/
def grouped? (text : List Char) : Option IpAddress := do
  match cutAtGap text with
  | none => ofGroups? (← side? groups? text)
  | some (front, back) =>
      let front ← side? (·.mapM group?) front
      let back ← side? groups? back
      let gap := 8 - (front.length + back.length)
      if gap = 0 then none else ofGroups? (front ++ List.replicate gap 0 ++ back)

end LedMatrix.IpAddress
