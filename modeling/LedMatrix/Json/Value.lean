/-
# Writing JSON

Values are written on one line and without blanks. Inside strings only what has
to be escaped is: quotes, backslashes and control characters. Since every
control character is escaped, what is written never spans more than one line.
-/

namespace LedMatrix.Json

/-- A JSON value to be written. Members keep their order. -/
inductive Value where
  | null
  | bool (value : Bool)
  | integer (value : Int)
  | string (value : String)
  | list (items : List Value)
  | object (members : List (String × Value))

namespace Value

/-- A character inside a written string. -/
def escapedChar (c : Char) : List Char :=
  if c = '"' then ['\\', '"']
  else if c = '\\' then ['\\', '\\']
  else if c = '\n' then ['\\', 'n']
  else if c = '\r' then ['\\', 'r']
  else if c = '\t' then ['\\', 't']
  else if c = '\x08' then ['\\', 'b']
  else if c = '\x0c' then ['\\', 'f']
  else if c.toNat < 0x20 then
    ['\\', 'u', '0', '0', Nat.digitChar (c.toNat / 16), Nat.digitChar (c.toNat % 16)]
  else [c]

/-- A written string. -/
def renderString (text : String) : List Char :=
  '"' :: text.toList.flatMap escapedChar ++ ['"']

/-- A written whole number. -/
def renderInteger (value : Int) : List Char :=
  if value < 0 then '-' :: Nat.toDigits 10 value.natAbs else Nat.toDigits 10 value.natAbs

/-- Parts joined by commas. -/
def commaSeparated : List (List Char) → List Char
  | [] => []
  | [part] => part
  | part :: rest => part ++ ',' :: commaSeparated rest

mutual

/-- A written value. -/
def renderChars : Value → List Char
  | null => ['n', 'u', 'l', 'l']
  | bool true => ['t', 'r', 'u', 'e']
  | bool false => ['f', 'a', 'l', 's', 'e']
  | integer value => renderInteger value
  | string text => renderString text
  | list items => '[' :: commaSeparated (renderItems items) ++ [']']
  | object members => '\x7b' :: commaSeparated (renderMembers members) ++ ['\x7d']

/-- The written items of a list. -/
def renderItems : List Value → List (List Char)
  | [] => []
  | item :: rest => renderChars item :: renderItems rest

/-- The written members of an object. -/
def renderMembers : List (String × Value) → List (List Char)
  | [] => []
  | member :: rest => renderMember member :: renderMembers rest

/-- A written member. -/
def renderMember : String × Value → List Char
  | (key, content) => renderString key ++ ':' :: renderChars content

end

/-- A written value as a text. -/
def render (value : Value) : String := String.ofList value.renderChars

/-- A natural number as a value. -/
def natural (value : Nat) : Value := integer value

/-- A value that may be absent, which is written as null. -/
def optional {α : Type} (write : α → Value) : Option α → Value
  | none => null
  | some value => write value

end Value

end LedMatrix.Json
