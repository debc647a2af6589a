/-
# The written forms of simple values

How colours, turns, mirrors, layouts and strip types are read from JSON and
written to it.

A set of mirrors is written as text: the names of its mirrors and, if it has
bits without a meaning, their number in base sixteen, joined by bars. Reading is
more generous: the parts may come in any order, may repeat and may have blanks
around them, and any bits may be given by their number.
-/

import LedMatrix.Color
import LedMatrix.Config
import LedMatrix.Json.Reader
import LedMatrix.Json.Value
import LedMatrix.Text.Pieces

namespace LedMatrix.Written

open LedMatrix.Json

/-- A colour is read from a number of 32 bits, of which the low 24 count. -/
def readColor : Reader Color := fun doc => (Reader.word32 doc).map Color.ofNat

/-- A colour is written as its packed number. -/
def writeColor (color : Color) : Value := .natural color.toNat

/-- A turn is read from its degrees. -/
def readRotation : Reader Rotation := fun doc => do
  match Rotation.ofDegrees (← Reader.signed32 doc) with
  | .ok rotation => return rotation
  | .error cause => throw (.refused cause.message)

/-- A turn is written as its degrees. -/
def writeRotation (rotation : Rotation) : Value := .integer rotation.degrees

/-- A layout is read from its name. -/
def readLayout : Reader Layout := Reader.variant .streamed Layout.all Layout.name

/-- A layout is written as its name. -/
def writeLayout (layout : Layout) : Value := .string layout.name

/-- A strip type is read from its name. -/
def readStripType (access : Access) : Reader StripType :=
  Reader.variant access StripType.all StripType.name

/-- A strip type is written as its name. -/
def writeStripType (stripType : StripType) : Value := .string stripType.name

/-- One part of a written set of mirrors, without blanks around it. -/
def readFlipPart : List Char → Except Fault Flip
  | [] => .error (.refused "encountered empty flag")
  | '0' :: 'x' :: digits =>
      match Text.plusNumber? 16 0xFF digits with
      | some bits => .ok (Flip.ofBits bits)
      | none => .error (.refused "invalid hex flag")
  | ['X'] => .ok { x := true }
  | ['Y'] => .ok { y := true }
  | _ => .error (.refused "unrecognized named flag")

/-- A set of mirrors from its written form. -/
def flipOfText (text : List Char) : Except Fault Flip :=
  if (Text.trimmed text).isEmpty then .ok Flip.none
  else
    (Text.piecesAt '|' text).foldlM (fun flip part => do
      return flip.union (← readFlipPart (Text.trimmed part))) Flip.none

/-- A set of mirrors is read from its written form. -/
def readFlip : Reader Flip
  | .string offer => do flipOfText (← offer.typed).toList
  | doc => Reader.wrongType "a string value of `|` separated flags" doc

/-- The written form of a set of mirrors. -/
def flipText (flip : Flip) : String :=
  let rest := 4 * flip.rest.val
  " | ".intercalate
    ((if flip.x then ["X"] else []) ++ (if flip.y then ["Y"] else [])
      ++ (if rest = 0 then [] else ["0x" ++ String.ofList (Text.lowerHex rest)]))

/-- A set of mirrors is written as text. -/
def writeFlip (flip : Flip) : Value := .string (flipText flip)

end LedMatrix.Written
