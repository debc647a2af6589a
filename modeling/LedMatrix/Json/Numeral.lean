/-
# Numbers in JSON text

`Numeral.scan` cuts a number from the start of a text into its written parts,
and `Numeral.value` reads the parts. Whole numbers that fit 64 bits are exact.
Every other number becomes a double: the leading digits that fit 64 bits are
scaled by a power of ten in one step, so the result is close to the written
number but not always the nearest double.
-/

import LedMatrix.Json.Fault

namespace LedMatrix.Json

/-- The written parts of a number. -/
structure Numeral where
  isNegative : Bool
  /-- The digits before the point. -/
  whole : List Nat
  /-- The digits after the point; none if there is no point. -/
  fraction : List Nat
  /-- Whether the exponent is negative, and its digits. -/
  exponent : Option (Bool × List Nat)
  deriving DecidableEq

namespace Numeral

/-- How a number breaks off where a digit has to follow. -/
inductive Break where
  /-- The text ends. -/
  | ended
  /-- Another character follows. -/
  | strange
  deriving DecidableEq

namespace Break

/-- How a number breaks off before the given text. -/
def before : List Char → Break
  | [] => ended
  | _ :: _ => strange

/-- The fault that a reader of the value reports. -/
def typedFault : Break → Fault
  | ended => .unfinished .value
  | strange => .malformed .invalidNumber

/-- The fault that a reader reports who skips the number. -/
def skippedFault : Fault := .malformed .invalidNumber

end Break

/-- The digits at the start of a text, and what follows them. -/
def digits (text : List Char) : List Nat × List Char :=
  ((text.takeWhile Char.isDigit).map fun c => c.toNat - '0'.toNat, text.dropWhile Char.isDigit)

/-- The sign at the start of a text, and what follows it. -/
def sign : List Char → Bool × List Char
  | '-' :: rest => (true, rest)
  | text => (false, text)

/-- The sign of an exponent, which may be written even if it is positive. -/
def exponentSign : List Char → Bool × List Char
  | '+' :: rest => (false, rest)
  | text => sign text

/-- The digits before the point: one zero, or digits that do not start with
zero. -/
def scanWhole (text : List Char) : Except Break (List Nat × List Char) :=
  match digits text with
  | ([], rest) => .error (Break.before rest)
  | (0 :: _ :: _, _) => .error .strange
  | found => .ok found

/-- The digits after the point, if there is a point. -/
def scanFraction : List Char → Except Break (List Nat × List Char)
  | '.' :: text =>
      match digits text with
      | ([], rest) => .error (Break.before rest)
      | found => .ok found
  | text => .ok ([], text)

/-- The exponent, if there is one. -/
def scanExponent : List Char → Except Break (Option (Bool × List Nat) × List Char)
  | text@(mark :: afterMark) =>
      if mark = 'e' ∨ mark = 'E' then
        let (isNegative, afterSign) := exponentSign afterMark
        match digits afterSign with
        | ([], rest) => .error (Break.before rest)
        | (found, rest) => .ok (some (isNegative, found), rest)
      else .ok (none, text)
  | [] => .ok (none, [])

/-- Cut a number from the start of a text that begins with a sign or a digit. -/
def scan (text : List Char) : Except Break (Numeral × List Char) := do
  let (isNegative, text) := sign text
  let (whole, text) ← scanWhole text
  let (fraction, text) ← scanFraction text
  let (exponent, text) ← scanExponent text
  return ({ isNegative, whole, fraction, exponent }, text)

/-- Append digits to a number as long as it stays within the limit. What is left
starts with the first digit that did not fit. -/
def gather (limit : Nat) : (number : Nat) → List Nat → Nat × List Nat
  | number, [] => (number, [])
  | number, digit :: rest =>
      if number * 10 + digit ≤ limit then gather limit (number * 10 + digit) rest
      else (number, digit :: rest)

/-- The greatest number of 64 bits. -/
def maxWord : Nat := 0xFFFFFFFFFFFFFFFF

/-- The greatest size of an exponent. -/
def maxExponent : Nat := 0x7FFFFFFF

/-- Powers of ten up to this one are written as doubles. -/
def maxPower : Nat := 308

/-- Divide by `10 ^ 308` until the exponent is within reach of one division.
Two such steps take every number of 64 bits to zero, so `steps` only has to be
large enough. -/
def shrink : (steps : Nat) → Float → Int → Float
  | 0, x, _ => x
  | steps + 1, x, exponent =>
      if -(maxPower : Int) ≤ exponent then x / Float.ofScientific 1 false exponent.natAbs
      else if x == 0 then x
      else shrink steps (x / Float.ofScientific 1 false maxPower) (exponent + maxPower)

/-- The double next to `significand * 10 ^ exponent`. -/
def scale (significand : Nat) (exponent : Int) : Except Fault Float :=
  let x := significand.toUInt64.toFloat
  if exponent < 0 then .ok (shrink 4 x exponent)
  else if exponent ≤ maxPower then
    let scaled := x * Float.ofScientific 1 false exponent.toNat
    if scaled.isInf then .error (.malformed .numberOutOfRange) else .ok scaled
  else if significand = 0 then .ok x
  else .error (.malformed .numberOutOfRange)

/-- The double that a number with a point or an exponent, or one that is too
long for a word, stands for. -/
def double (numeral : Numeral) : Except Fault Float :=
  let (significand, dropped) := gather maxWord 0 numeral.whole
  let (significand, ignored) := gather maxWord significand numeral.fraction
  let start : Int := dropped.length - (numeral.fraction.length - ignored.length : Int)
  match numeral.exponent with
  | none => scale significand start
  | some (isNegative, found) =>
      match gather maxExponent 0 found with
      | (size, []) => scale significand (if isNegative then start - size else start + size)
      | (_, _ :: _) =>
          if significand ≠ 0 ∧ !isNegative then .error (.malformed .numberOutOfRange)
          else .ok 0

/-- Whether the parts are those of a whole number that fits a word. -/
def wholeWord? (numeral : Numeral) : Option Nat :=
  match numeral.fraction, numeral.exponent, gather maxWord 0 numeral.whole with
  | [], none, (value, []) => some value
  | _, _, _ => none

/-- The value of a number. A negative zero and a negative number below
`- 2 ^ 63` are doubles. -/
def value (numeral : Numeral) : Except Fault Number :=
  match numeral.wholeWord? with
  | some word =>
      if !numeral.isNegative then .ok (.natural word)
      else if 0 < word ∧ word ≤ 0x8000000000000000 then .ok (.negative (-(word : Int)))
      else .ok (.double (-word.toUInt64.toFloat))
  | none => do
      let size ← numeral.double
      return .double (if numeral.isNegative then -size else size)

end Numeral

end LedMatrix.Json
