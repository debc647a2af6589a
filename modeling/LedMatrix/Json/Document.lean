/-
# JSON documents

A text is read into a tree once, and the tree is then read by whoever wants a
value from it. Readers meet faults in the order of the text, so a tree has to
remember where the text is at fault: `Doc.absent` and `Doc.stray` stand where no
value could be read, and the ending of a list or an object tells how it ended.
Nothing of the text after the first tear is in the tree.

Two kinds of reader disagree about a few texts. A reader that wants a value
refuses some strings and numbers that a reader that only skips them lets pass,
and the two name a few faults differently. The tree is built by the more lenient
rules of skipping and keeps both answers wherever they differ.

`Doc.ofText` keeps the containers it is inside of on a list of its own, so a
text may be nested as deeply as it is long.
-/

import LedMatrix.Json.Numeral
import LedMatrix.Json.StringLiteral

namespace LedMatrix.Json

/-- How a list ended. -/
inductive ListEnding where
  /-- With its bracket. -/
  | closed
  /-- The text ended after an item or after the opening bracket. -/
  | ended
  /-- Something else than a comma or a bracket came after an item. -/
  | interrupted
  /-- The bracket came directly after a comma. -/
  | commaClosed
  /-- The text ended after a comma. -/
  | commaEnded
  /-- The last item is torn, and the fault is what a skipping reader meets. -/
  | inside (torn : Fault)

/-- How an object ended. -/
inductive ObjectEnding where
  /-- With its brace. -/
  | closed
  /-- The text ended after a member or after the opening brace. -/
  | ended
  /-- Something else than a comma or a brace came after a member. -/
  | interrupted
  /-- The brace came directly after a comma. -/
  | commaClosed
  /-- The text ended after a comma. -/
  | commaEnded
  /-- No string stands where a key has to. -/
  | badKey
  /-- The last member is torn, and the fault is what a skipping reader meets. -/
  | inside (torn : Fault)

/-- What was read at the place of a value. -/
inductive Doc where
  /-- The place was not reached, for the given reason. -/
  | absent (fault : Fault)
  /-- The text at the place begins no value, or breaks off inside a word. -/
  | stray (fault : Fault)
  | null
  | bool (value : Bool)
  | number (offer : Offer Number)
  | string (offer : Offer String)
  | list (items : List Doc) (ending : ListEnding)
  | object (members : List (Offer String × Doc)) (ending : ObjectEnding)

/-- The fault a list shows to a reader that wants one more item or its end. -/
def ListEnding.typedFault? : ListEnding → Option Fault
  | closed => none
  | ended => some (.unfinished .list)
  | interrupted => some (.malformed .expectedCommaOrBracket)
  | commaClosed => some (.malformed .trailingComma)
  | commaEnded => some (.unfinished .value)
  | inside torn => some torn

/-- The fault a list shows to a reader that skips it. -/
def ListEnding.torn? : ListEnding → Option Fault
  | commaClosed => some (.malformed .expectedValue)
  | ending => ending.typedFault?

/-- The fault an object shows to a reader that wants one more key or its end. -/
def ObjectEnding.typedFault? : ObjectEnding → Option Fault
  | closed => none
  | ended => some (.unfinished .object)
  | interrupted => some (.malformed .expectedCommaOrBrace)
  | commaClosed => some (.malformed .trailingComma)
  | commaEnded => some (.unfinished .value)
  | badKey => some (.malformed .keyNotString)
  | inside torn => some torn

/-- The fault an object shows to a reader that skips it. -/
def ObjectEnding.torn? : ObjectEnding → Option Fault
  | commaClosed => some (.malformed .keyNotString)
  | commaEnded => some (.unfinished .object)
  | ending => ending.typedFault?

namespace Doc

/-- The fault that a reader meets who skips what stands at a place. -/
def torn? : Doc → Option Fault
  | absent fault | stray fault => some fault
  | null | bool _ => none
  | number offer => offer.torn
  | string offer => offer.torn
  | list _ ending => ending.torn?
  | object _ ending => ending.torn?

/-- What a reader finds who wanted something else, or the fault that it meets
before it can tell. -/
def found : Doc → Except Fault Found
  | absent fault | stray fault => .error fault
  | null => .ok .null
  | bool value => .ok (.boolean value)
  | number offer => offer.typed.map .number
  | string offer => offer.typed.map .string
  | list _ _ => .ok .sequence
  | object _ _ => .ok .map

/-- Blanks between the parts of a text. -/
def isSpace (c : Char) : Bool := c = ' ' || c = '\t' || c = '\n' || c = '\r'

/-- A text without the blanks at its start. -/
def skipSpace (text : List Char) : List Char := text.dropWhile isSpace

/-- Read the rest of a word, letter by letter. -/
def scanWord : (letters : List Char) → (text : List Char) → Except Fault (List Char)
  | [], text => .ok text
  | _ :: _, [] => .error (.unfinished .value)
  | letter :: letters, c :: text =>
      if c = letter then scanWord letters text else .error (.malformed .expectedIdent)

/-- A value that is no container, with the text that follows it. Nothing
follows a torn value. -/
def scanScalar : List Char → Doc × List Char
  | [] => (absent (.unfinished .value), [])
  | '"' :: text =>
      let (offer, rest) := StringLiteral.scan (.reading []) text
      (string offer, rest)
  | 'n' :: text => word "ull" null text
  | 't' :: text => word "rue" (bool true) text
  | 'f' :: text => word "alse" (bool false) text
  | c :: text =>
      if c = '-' ∨ c.isDigit then
        match Numeral.scan (c :: text) with
        | .ok (numeral, rest) => (number ⟨numeral.value, none⟩, rest)
        | .error gap => (number ⟨.error gap.typedFault, some Numeral.Break.skippedFault⟩, [])
      else (stray (.malformed .expectedValue), [])
where
  /-- A value that is written as a word. -/
  word (letters : String) (value : Doc) (text : List Char) : Doc × List Char :=
    match scanWord letters.toList text with
    | .ok rest => (value, rest)
    | .error fault => (stray fault, [])

/-- A container that is being read, its last part first. -/
inductive Frame where
  | list (items : List Doc)
  | object (members : List (Offer String × Doc)) (key : Offer String)

/-- Close all containers around a torn value. -/
def tear (fault : Fault) : List Frame → Doc → Doc
  | [], doc => doc
  | .list items :: outer, doc => tear fault outer (list (doc :: items).reverse (.inside fault))
  | .object members key :: outer, doc =>
      tear fault outer (object ((key, doc) :: members).reverse (.inside fault))

/-- What is read next. -/
inductive Stage where
  /-- A value. -/
  | value
  /-- A key of an object with the given members. -/
  | key (members : List (Offer String × Doc))
  /-- What follows the given value. -/
  | after (doc : Doc)

/-- Close a container that ends with a fault, and all containers around it. -/
def tearList (outer : List Frame) (items : List Doc) (ending : ListEnding) : Doc × List Char :=
  let doc := list items.reverse ending
  (tear (ending.torn?.getD (.unfinished .list)) outer doc, [])

/-- Close an object that ends with a fault, and all containers around it. -/
def tearObject (outer : List Frame) (members : List (Offer String × Doc))
    (ending : ObjectEnding) : Doc × List Char :=
  let doc := object members.reverse ending
  (tear (ending.torn?.getD (.unfinished .object)) outer doc, [])

/-- Read on until the outermost value is complete or torn. Every round takes at
least one character, so as many rounds as there are characters, and one more to
finish, are enough. -/
def read : (rounds : Nat) → Stage → List Frame → List Char → Doc × List Char
  | 0, _, outer, _ => (tear (.unfinished .value) outer (absent (.unfinished .value)), [])
  | rounds + 1, .value, outer, text =>
      match skipSpace text with
      | '[' :: text =>
          match skipSpace text with
          | [] => tearList outer [] .ended
          | ']' :: text => read rounds (.after (list [] .closed)) outer text
          | text => read rounds .value (.list [] :: outer) text
      | '\x7b' :: text =>
          match skipSpace text with
          | [] => tearObject outer [] .ended
          | '\x7d' :: text => read rounds (.after (object [] .closed)) outer text
          | text => read rounds (.key []) outer text
      | text =>
          let (doc, text) := scanScalar text
          match doc.torn? with
          | some fault => (tear fault outer doc, [])
          | none => read rounds (.after doc) outer text
  | rounds + 1, .key members, outer, text =>
      match text with
      | '"' :: text =>
          let (key, text) := StringLiteral.scan (.reading []) text
          let broken (fault : Fault) : Doc × List Char :=
            (tear fault (.object members key :: outer) (absent fault), [])
          match key.torn with
          | some fault => broken fault
          | none =>
              match skipSpace text with
              | ':' :: text => read rounds .value (.object members key :: outer) text
              | [] => broken (.unfinished .object)
              | _ => broken (.malformed .expectedColon)
      | _ => tearObject outer members .badKey
  | _ + 1, .after doc, [], text => (doc, text)
  | rounds + 1, .after doc, .list items :: outer, text =>
      match skipSpace text with
      | [] => tearList outer (doc :: items) .ended
      | ',' :: text =>
          match skipSpace text with
          | [] => tearList outer (doc :: items) .commaEnded
          | ']' :: _ => tearList outer (doc :: items) .commaClosed
          | text => read rounds .value (.list (doc :: items) :: outer) text
      | ']' :: text => read rounds (.after (list (doc :: items).reverse .closed)) outer text
      | _ => tearList outer (doc :: items) .interrupted
  | rounds + 1, .after doc, .object members key :: outer, text =>
      let members := (key, doc) :: members
      match skipSpace text with
      | [] => tearObject outer members .ended
      | ',' :: text =>
          match skipSpace text with
          | [] => tearObject outer members .commaEnded
          | '\x7d' :: _ => tearObject outer members .commaClosed
          | text => read rounds (.key members) outer text
      | '\x7d' :: text => read rounds (.after (object members.reverse .closed)) outer text
      | _ => tearObject outer members .interrupted

/-- A value that stands in no container ends the reading. -/
theorem read_after_nil (rounds : Nat) (doc : Doc) (text : List Char) :
    read (rounds + 1) (.after doc) [] text = (doc, text) := by
  rw [read]

/-- Read a text from its start; the text that follows the value is returned
with it. -/
def ofText (text : List Char) : Doc × List Char := read (text.length + 1) .value [] text

end Doc

/-- Read a text as one value of a kind. What the reader of that kind accepts may
only be followed by blanks. -/
def decode {α : Type} (reader : Doc → Except Fault α) (text : String) : Except Fault α := do
  let (doc, rest) := Doc.ofText text.toList
  let value ← reader doc
  if (Doc.skipSpace rest).isEmpty then return value
  else throw (.malformed .trailingCharacters)

end LedMatrix.Json
