/-
# Why a JSON text is refused

A reader stops at the first fault it meets. Faults are of three kinds: the text
ends too early, the text is not JSON, or it is JSON but not of the wanted form.
The kind is part of what clients see, and so is the wording, which lives in
`Fault.message`.

Behind the message a reader tells the place in the text where it stood when it met
the fault. A fault does not know its place. Where a reader stands depends on how far
it looks ahead and on how much it takes in at once, which no document tells. So readers
have their places from outside (`Placing`).
-/

import LedMatrix.Decimal.Shortest
import LedMatrix.Text.Quoted

namespace LedMatrix.Json

/-- A number as it was read. -/
inductive Number where
  /-- A whole number below `2 ^ 64` without a sign. -/
  | natural (value : Nat)
  /-- A negative whole number from `- 2 ^ 63`. -/
  | negative (value : Int)
  /-- Every other number. -/
  | double (value : Float)

/-- What a reader has found where it wanted something else. -/
inductive Found where
  | null
  | boolean (value : Bool)
  | number (value : Number)
  | string (value : String)
  | sequence
  | map

/-- Where a text ends too early. -/
inductive Unfinished where
  | value
  | string
  | object
  | list
  deriving DecidableEq

/-- How a text fails to be JSON. -/
inductive Malformed where
  | expectedValue
  | expectedIdent
  | invalidNumber
  | numberOutOfRange
  | keyNotString
  | expectedColon
  | expectedCommaOrBrace
  | expectedCommaOrBracket
  | trailingComma
  | trailingCharacters
  | invalidEscape
  | loneSurrogate
  | unfinishedSurrogate
  | controlCharacter
  | tooDeep
  deriving DecidableEq

/-- A fault of a text. -/
inductive Fault where
  | unfinished (inside : Unfinished)
  | malformed (how : Malformed)
  /-- A value of another type than wanted. -/
  | wrongType (found : Found) (wanted : String)
  /-- A value of the wanted type that is out of range. -/
  | wrongValue (found : Found) (wanted : String)
  | missingField (name : String)
  | duplicateField (name : String)
  | unknownVariant (name : String) (known : List String)
  /-- A list of `length` items where another number is wanted. -/
  | wrongLength (length : Nat) (wanted : String)
  /-- A value of the right form that its type refuses. -/
  | refused (reason : String)

/-- The three kinds of fault. -/
inductive FaultKind where
  | unfinished
  | malformed
  | mismatched
  deriving DecidableEq

namespace Fault

/-- The kind of a fault. -/
def kind : Fault → FaultKind
  | .unfinished _ => .unfinished
  | .malformed _ => .malformed
  | _ => .mismatched

end Fault

/-- The message of a text that ends too early. -/
def Unfinished.message : Unfinished → String
  | .value => "EOF while parsing a value"
  | .string => "EOF while parsing a string"
  | .object => "EOF while parsing an object"
  | .list => "EOF while parsing a list"

/-- The message of a text that is not JSON. -/
def Malformed.message : Malformed → String
  | .expectedValue => "expected value"
  | .expectedIdent => "expected ident"
  | .invalidNumber => "invalid number"
  | .numberOutOfRange => "number out of range"
  | .keyNotString => "key must be a string"
  | .expectedColon => "expected `:`"
  | .expectedCommaOrBrace => "expected `,` or `\x7d`"
  | .expectedCommaOrBracket => "expected `,` or `]`"
  | .trailingComma => "trailing comma"
  | .trailingCharacters => "trailing characters"
  | .invalidEscape => "invalid escape"
  | .loneSurrogate => "lone leading surrogate in hex escape"
  | .unfinishedSurrogate => "unexpected end of hex escape"
  | .controlCharacter => "control character (\\u0000-\\u001F) found while parsing a string"
  | .tooDeep => "recursion limit exceeded"

/-- Doubles in messages are written positionally while the leading digit stands
between the fifth decimal and the sixteenth place before the point. -/
def doubleNotation : Decimal.Notation where
  positionalFrom := -5
  positionalTo := 15
  wholeMark := ".0"
  positiveMark := "e+"
  negativeMark := "e-"

/-- The name of what was found, between backquotes where it has a written form. -/
def Found.message : Found → String
  | .null => "null"
  | .boolean value => "boolean `" ++ (if value then "true" else "false") ++ "`"
  | .number (.natural value) => "integer `" ++ toString value ++ "`"
  | .number (.negative value) => "integer `" ++ toString value ++ "`"
  | .number (.double value) => "floating point `" ++ doubleNotation.renderFloat value ++ "`"
  | .string value => "string " ++ Text.quoted value
  | .sequence => "sequence"
  | .map => "map"

/-- The alternatives that a message lists: two are joined by "or", more are
introduced by "one of". -/
def alternatives : List String → String
  | [] => "there are no variants"
  | [only] => "expected `" ++ only ++ "`"
  | [first, second] => "expected `" ++ first ++ "` or `" ++ second ++ "`"
  | names => "expected one of " ++ ", ".intercalate (names.map fun name => "`" ++ name ++ "`")

/-- The message of a fault. -/
def Fault.message : Fault → String
  | .unfinished inside => inside.message
  | .malformed how => how.message
  | .wrongType found wanted => "invalid type: " ++ found.message ++ ", expected " ++ wanted
  | .wrongValue found wanted => "invalid value: " ++ found.message ++ ", expected " ++ wanted
  | .missingField name => "missing field `" ++ name ++ "`"
  | .duplicateField name => "duplicate field `" ++ name ++ "`"
  | .unknownVariant name known => "unknown variant `" ++ name ++ "`, " ++ alternatives known
  | .wrongLength length wanted =>
      "invalid length " ++ toString length ++ ", expected " ++ wanted
  | .refused reason => reason

/-- A place in a text: a line, counted from one, and how many of its bytes have been
looked at. -/
structure Place where
  line : Nat
  column : Nat
  deriving DecidableEq

/-- How a place is told behind a message. -/
def Place.message (place : Place) : String :=
  " at line " ++ toString place.line ++ " column " ++ toString place.column

/-- Where the reader of an `α` stands in a text when it meets a fault. A reader that
has taken the text in before it meets the fault stands nowhere. -/
class Placing (α : Type) where
  place? : (text : String) → Fault → Option Place

/-- Unless something else is said, no places are told. -/
instance (priority := low) Placing.untold {α : Type} : Placing α where
  place? _ _ := none

/-- What the reader of an `α` reports of a fault of a text. -/
def Fault.report (α : Type) [Placing α] (text : String) (fault : Fault) : String :=
  match Placing.place? α text fault with
  | none => fault.message
  | some place => fault.message ++ place.message

end LedMatrix.Json
