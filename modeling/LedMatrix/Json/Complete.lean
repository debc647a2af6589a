/-
# Complete documents

A document that was read to its end can be used like a value: its members can
be asked for by their keys, and a reader can be given a part of it. Such a part
has been put into order before. Of several members with one key the last has
replaced the others, and members stand in the order of their keys, so the order
in which they were written no longer decides which fault is met first.
-/

import LedMatrix.Json.Reader

namespace LedMatrix.Json

namespace Doc

/-- The key of a member. -/
def keyOf (member : Offer String × Doc) : String := member.1.typed.toOption.getD ""

/-- The member of an object with the given key, the last one if there are
several. -/
def member? (key : String) : Doc → Option Doc
  | object members _ => (members.reverse.find? fun member => keyOf member = key).map (·.2)
  | _ => none

/-- Put a member in front of the members with greater keys, unless its key is
already there. -/
def insertMember (member : Offer String × Doc) :
    List (Offer String × Doc) → List (Offer String × Doc)
  | [] => [member]
  | first :: rest =>
      if keyOf member = keyOf first then first :: rest
      else if keyOf member < keyOf first then member :: first :: rest
      else first :: insertMember member rest

mutual

/-- A document with all its objects put into order. -/
def settled : Doc → Doc
  | list items ending => list (settledItems items) ending
  | object members ending => object (settledMembers members) ending
  | absent fault => absent fault
  | stray fault => stray fault
  | null => null
  | bool value => bool value
  | number offer => number offer
  | string offer => string offer

/-- The items of a list, all put into order. -/
def settledItems : List Doc → List Doc
  | [] => []
  | item :: rest => settled item :: settledItems rest

/-- The members of an object in order. Later members are put into place first,
and earlier ones with the same keys are dropped. -/
def settledMembers : List (Offer String × Doc) → List (Offer String × Doc)
  | [] => []
  | member :: rest => insertMember (settledMember member) (settledMembers rest)

/-- A member with its value put into order. -/
def settledMember : Offer String × Doc → Offer String × Doc
  | (key, content) => (key, settled content)

end

end Doc

/-- Read a value from a part of a complete document. -/
def decodePart {α : Type} (reader : Access → Reader α) (doc : Doc) : Except Fault α :=
  reader .complete doc.settled

end LedMatrix.Json
