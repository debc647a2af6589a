/-
# Strings in JSON text

A string is read in two ways at once, because a reader may want its text or may
only want to get past it. Past it means past the closing quote with escapes
that are well formed one by one. Its text needs more: escapes of sixteen-bit
units have to pair up to characters. A string may therefore have no text and
still be passable, and both answers are kept.
-/

import LedMatrix.Json.Fault
import LedMatrix.Text.Digits

namespace LedMatrix.Json

/-- What a text offers at one place: to a reader that wants the value, and to
one that skips it. A fault of the second kind ends the text for both. -/
structure Offer (α : Type) where
  typed : Except Fault α
  /-- The fault that even a skipping reader meets. -/
  torn : Option Fault

namespace StringLiteral

/-- How far the text of a string has been put together, last character first. -/
inductive Progress where
  /-- All characters so far. -/
  | reading (done : List Char)
  /-- The same, and the first unit of a pair whose second unit has to follow. -/
  | awaiting (high : Nat) (done : List Char)
  /-- The string has no text. -/
  | failed (fault : Fault)

namespace Progress

/-- Continue with a character that is no sixteen-bit unit. -/
def char (c : Char) : Progress → Progress
  | reading done => reading (c :: done)
  | awaiting _ _ => failed (.malformed .unfinishedSurrogate)
  | failed fault => failed fault

/-- Whether a unit is the first of a pair. -/
def isHigh (unit : Nat) : Bool := 0xD800 ≤ unit && unit < 0xDC00

/-- Whether a unit is the second of a pair. -/
def isLow (unit : Nat) : Bool := 0xDC00 ≤ unit && unit < 0xE000

/-- Continue with a sixteen-bit unit. -/
def codeUnit (unit : Nat) : Progress → Progress
  | reading done =>
      if isLow unit then failed (.malformed .loneSurrogate)
      else if isHigh unit then awaiting unit done
      else reading (Char.ofNat unit :: done)
  | awaiting high done =>
      if isLow unit then
        reading (Char.ofNat (0x10000 + (high - 0xD800) * 0x400 + (unit - 0xDC00)) :: done)
      else failed (.malformed .loneSurrogate)
  | failed fault => failed fault

/-- The text at the closing quote. -/
def close : Progress → Except Fault String
  | reading done => .ok (String.ofList done.reverse)
  | awaiting _ _ => .error (.malformed .unfinishedSurrogate)
  | failed fault => .error fault

/-- The fault of a string that is torn while its next character or its next
escape is read. A pair that is still open is a fault of its own, unless the
tear may belong to its second unit. -/
def tear (fault : Fault) (mayBelongToUnit : Bool) : Progress → Fault
  | reading _ => fault
  | awaiting _ _ => if mayBelongToUnit then fault else .malformed .unfinishedSurrogate
  | failed first => first

end Progress

/-- The value of four hexadecimal digits. -/
def codeUnit? (a b c d : Char) : Option Nat := do
  let first := (← Text.hexDigit? a) * 16 + (← Text.hexDigit? b)
  return (first * 16 + (← Text.hexDigit? c)) * 16 + (← Text.hexDigit? d)

/-- The character of an escape with one letter. -/
def escaped? : Char → Option Char
  | '"' => some '"'
  | '\\' => some '\\'
  | '/' => some '/'
  | 'b' => some '\x08'
  | 'f' => some '\x0c'
  | 'n' => some '\n'
  | 'r' => some '\r'
  | 't' => some '\t'
  | _ => none

/-- How many bytes a text takes when it is sent. -/
def byteLength (text : List Char) : Nat := text.foldl (fun count c => count + c.utf8Size) 0

/-- The fault of a unit escape with fewer than four characters after it: the
text has ended if there is not even room for four bytes. -/
def shortUnitFault (text : List Char) : Fault :=
  if byteLength text < 4 then .unfinished .string else .malformed .invalidEscape

private def torn (progress : Progress) (fault : Fault) (mayBelongToUnit : Bool) :
    Offer String × List Char :=
  (⟨.error (progress.tear fault mayBelongToUnit), some fault⟩, [])

/-- Read a string whose opening quote has been read. The text that follows its
closing quote is returned with it; nothing follows a torn string. -/
def scan (progress : Progress) : List Char → Offer String × List Char
  | [] => torn progress (.unfinished .string) true
  | '"' :: rest => (⟨progress.close, none⟩, rest)
  | ['\\'] => torn progress (.unfinished .string) true
  | '\\' :: 'u' :: a :: b :: c :: d :: rest =>
      match codeUnit? a b c d with
      | some unit => scan (progress.codeUnit unit) rest
      | none => torn progress (.malformed .invalidEscape) true
  | '\\' :: 'u' :: short => torn progress (shortUnitFault short) true
  | '\\' :: letter :: rest =>
      match escaped? letter with
      | some c => scan (progress.char c) rest
      | none => torn progress (.malformed .invalidEscape) false
  | c :: rest =>
      if c.toNat < 0x20 then torn progress (.malformed .controlCharacter) false
      else scan (progress.char c) rest

end StringLiteral

end LedMatrix.Json
