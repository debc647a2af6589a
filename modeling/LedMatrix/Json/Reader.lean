/-
# Readers of JSON values

A reader takes a value of one kind out of a document. Readers go through the
document in the order of the text and report the first fault on their way.

Records are read by overwriting. A reader of a record starts from a value of
it and lets every member that it knows replace one part; members that it does
not know are skipped. A record may also be written as the list of its fields.
Names are read as plain strings or as the only key of an object that holds
nothing else.

Most readers go along with a text as it is read and do not know what follows. A
reader of a value that has been read before knows how much there is, and words
a few refusals differently.
-/

import LedMatrix.Json.Document

namespace LedMatrix.Json

/-- A reader of values of one kind. -/
abbrev Reader (α : Type) := Doc → Except Fault α

/-- How a reader comes by its document. -/
inductive Access where
  /-- The text is read as the reader goes on. -/
  | streamed
  /-- The text was read to its end before the reader began. -/
  | complete
  deriving DecidableEq

/-- The fault of a list with too many items for a record. -/
def Access.surplus : Access → (length : Nat) → Fault
  | streamed, _ => .malformed .trailingCharacters
  | complete, length => .wrongLength length "fewer elements in array"

namespace Reader

/-- Report that something else was wanted. -/
def wrongType {α : Type} (wanted : String) : Reader α := fun doc => do
  throw (.wrongType (← doc.found) wanted)

/-- A truth value. -/
def bool : Reader Bool
  | .bool value => .ok value
  | doc => wrongType "a boolean" doc

/-- A string. -/
def string : Reader String
  | .string offer => offer.typed
  | doc => wrongType "a string" doc

/-- Nothing, written as null. -/
def nothing : Reader Unit
  | .null => .ok ()
  | doc => wrongType "unit" doc

/-- A whole number between two bounds, ends included. A number with a point or
an exponent is no whole number, whatever its value. -/
def integer (lower upper : Int) (wanted : String) : Reader Int
  | .number offer => do
      let found ← offer.typed
      let bounded (value : Int) : Except Fault Int :=
        if lower ≤ value ∧ value ≤ upper then .ok value
        else .error (.wrongValue (.number found) wanted)
      match found with
      | .natural value => bounded value
      | .negative value => bounded value
      | .double _ => throw (.wrongType (.number found) wanted)
  | doc => wrongType wanted doc

/-- A natural number up to the given one. -/
def natural (greatest : Nat) (wanted : String) : Reader Nat := fun doc =>
  (integer 0 greatest wanted doc).map Int.toNat

/-- A natural number of 8 bits. -/
def word8 : Reader Nat := natural 0xFF "u8"

/-- A natural number of 32 bits. -/
def word32 : Reader Nat := natural 0xFFFFFFFF "u32"

/-- A natural number of 64 bits. -/
def word64 : Reader Nat := natural Numeral.maxWord "u64"

/-- A length, which has 64 bits. -/
def length : Reader Nat := natural Numeral.maxWord "usize"

/-- A signed number of 32 bits. -/
def signed32 : Reader Int := integer (-0x80000000) 0x7FFFFFFF "i32"

/-- A value that may be absent, which is written as null. -/
def optional {α : Type} (reader : Reader α) : Reader (Option α)
  | .null => .ok none
  | doc => (reader doc).map some

/-- Fail if there is a fault. -/
def require : Option Fault → Except Fault Unit
  | none => .ok ()
  | some fault => .error fault

/-- The fault of an outcome. -/
def fault? {α : Type} : Except Fault α → Option Fault
  | .ok _ => none
  | .error fault => some fault

/-- One of several values, each written as a name. -/
def variant {α : Type} (access : Access) (values : List α) (nameOf : α → String) : Reader α
  | .string offer => do named (← offer.typed)
  | doc =>
      match access with
      | .streamed => streamedObject doc
      | .complete => completeObject doc
where
  /-- The value with the given name. -/
  named (name : String) : Except Fault α :=
    match values.find? fun value => nameOf value = name with
    | some value => .ok value
    | none => .error (.unknownVariant name (values.map nameOf))
  /-- The value whose name is the only key of an object, met key by key. -/
  streamedObject : Reader α
    | .object ((key, content) :: others) ending => do
        let value ← named (← key.typed)
        nothing content
        match others, ending with
        | [], .closed => return value
        | [], .ended => throw (.unfinished .object)
        | _, _ => throw (.malformed .expectedValue)
    | .object [] .ended => .error (.unfinished .object)
    | .object [] .badKey => .error (.malformed .keyNotString)
    | .absent fault => .error fault
    | _ => .error (.malformed .expectedValue)
  /-- The value whose name is the only key of an object, seen as a whole. -/
  completeObject : Reader α
    | .object [(key, content)] _ => do
        let value ← named (← key.typed)
        nothing content
        return value
    | .object _ _ => .error (.wrongValue .map "map with a single key")
    | doc => wrongType "string or map" doc

mutual

/-- The first fault inside a value for a reader that wants all of it. The reader
enters at most `allowance` containers inside each other. -/
def firstFault? (allowance : Nat) : Doc → Option Fault
  | .absent fault | .stray fault => some fault
  | .null | .bool _ => none
  | .number offer => fault? offer.typed
  | .string offer => fault? offer.typed
  | .list items ending =>
      match allowance with
      | 0 => some (.malformed .tooDeep)
      | allowance + 1 => firstItemFault? allowance ending.typedFault? items
  | .object members ending =>
      match allowance with
      | 0 => some (.malformed .tooDeep)
      | allowance + 1 => firstMemberFault? allowance ending.typedFault? members

/-- The first fault in the items of a list that ends in the given way. -/
def firstItemFault? (allowance : Nat) (ending : Option Fault) : List Doc → Option Fault
  | [] => ending
  | item :: rest =>
      match firstFault? allowance item with
      | some fault => some fault
      | none => firstItemFault? allowance ending rest

/-- The first fault in the members of an object that ends in the given way. -/
def firstMemberFault? (allowance : Nat) (ending : Option Fault) :
    List (Offer String × Doc) → Option Fault
  | [] => ending
  | member :: rest =>
      match firstFaultInMember? allowance member with
      | some fault => some fault
      | none => firstMemberFault? allowance ending rest

/-- The first fault in a key or its value. -/
def firstFaultInMember? (allowance : Nat) : Offer String × Doc → Option Fault
  | (key, content) =>
      match fault? key.typed with
      | some fault => some fault
      | none => firstFault? allowance content

end

end Reader

/-- A field of a record `σ`. -/
structure RecordField (σ : Type) where
  /-- The name of the field. -/
  name : String
  /-- Other names under which it is accepted. -/
  aliases : List String := []
  /-- Whether a record without the field is refused. -/
  isRequired : Bool := false
  /-- Read the value of the field into the record. -/
  read : Doc → σ → Except Fault σ

namespace RecordField

variable {σ : Type}

/-- A field whose value replaces a part of the record. -/
def into {α : Type} (name : String) (reader : Reader α) (replace : σ → α → σ) :
    RecordField σ where
  name := name
  read := fun doc record => do return replace record (← reader doc)

/-- Whether a member with the given key belongs to the field. -/
def matchesKey (field : RecordField σ) (key : String) : Bool :=
  field.name = key || field.aliases.contains key

end RecordField

/-- What is wanted of a record: its fields in order and the words that name it
in messages. -/
structure Schema (σ : Type) where
  fields : List (RecordField σ)
  /-- How the record is called where another value stands. -/
  wanted : String
  /-- How the record is called where a list is too short for it. -/
  wantedLength : String := wanted
  /-- The fault of a list with too many items, given their number. -/
  surplus : (length : Nat) → Fault := Access.streamed.surplus

namespace Schema

variable {σ : Type}

/-- Read the members of an object into a record. `seen` names the fields that
have had a value. -/
def readMembers (schema : Schema σ) :
    List (Offer String × Doc) → (seen : List String) → σ → Except Fault (List String × σ)
  | [], seen, record => .ok (seen, record)
  | (key, content) :: rest, seen, record => do
      let name ← key.typed
      match schema.fields.find? (·.matchesKey name) with
      | some field =>
          if seen.contains field.name then throw (.duplicateField field.name)
          else readMembers schema rest (field.name :: seen) (← field.read content record)
      | none => do
          Reader.require content.torn?
          readMembers schema rest seen record

/-- The first field that had to have a value and has none. -/
def missing? (schema : Schema σ) (seen : List String) : Option Fault :=
  (schema.fields.find? fun field => field.isRequired && !seen.contains field.name).map
    fun field => .missingField field.name

/-- Read a list as the fields of a record in their order; `position` counts the
items before. Fields that the list does not reach are as if not written. -/
def readItems (schema : Schema σ) (ending : ListEnding) :
    (position : Nat) → List (RecordField σ) → List Doc → σ → Except Fault σ
  | _, [], [], record =>
      match ending with
      | .closed => .ok record
      | .commaClosed => .error (.malformed .trailingComma)
      | .ended => .error (.unfinished .list)
      | _ => .error (.malformed .trailingCharacters)
  | position, [], item :: items, _ =>
      .error (schema.surplus (position + (item :: items).length))
  | position, field :: fields, [], record => do
      Reader.require ending.typedFault?
      match (field :: fields).findIdx? (·.isRequired) with
      | some index => throw (.wrongLength (position + index) schema.wantedLength)
      | none => return record
  | position, field :: fields, item :: items, record => do
      readItems schema ending (position + 1) fields items (← field.read item record)

/-- Read a record, starting from the given one. -/
def reader (schema : Schema σ) (start : σ) : Reader σ
  | .object members ending => do
      let (seen, record) ← schema.readMembers members [] start
      Reader.require ending.typedFault?
      Reader.require (schema.missing? seen)
      return record
  | .list items ending => schema.readItems ending 0 schema.fields items start
  | doc => Reader.wrongType schema.wanted doc

end Schema

end LedMatrix.Json
