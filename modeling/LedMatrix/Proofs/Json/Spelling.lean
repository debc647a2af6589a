/-
# JSON texts and their documents

`Doc.Spells` is the grammar of JSON: which texts spell which document. Blanks may stand
anywhere between the parts, members may come in any order and with any keys, and strings and
numbers may be spelled in every way that there is. Only finished documents are spelled; what a
reader makes of a torn text is not described here.

A list and an object are spelled by their parts, each with the blanks around it, so the grammar
needs no recursion of its own for what stands between two commas.
-/

import LedMatrix.Proofs.Json.Literals
import Mathlib.Data.List.DropRight

namespace LedMatrix.Json

namespace Doc

/-! ## The grammar -/

/-- Nothing but blanks. -/
def IsBlank (text : List Char) : Prop := ∀ c ∈ text, isSpace c = true

/-- A value with the blanks around it, as it stands in a list or behind a key. -/
structure Slot where
  before : List Char
  text : List Char
  after : List Char
  /-- What the text is meant to spell. -/
  doc : Doc
  before_blank : IsBlank before
  after_blank : IsBlank after

/-- A slot as it is spelled. -/
def Slot.spelled (slot : Slot) : List Char := slot.before ++ (slot.text ++ slot.after)

/-- A member of an object with the blanks around its key. -/
structure Entry where
  before : List Char
  key : List StringLiteral.Piece
  after : List Char
  content : Slot
  before_blank : IsBlank before
  after_blank : IsBlank after

namespace Entry

/-- A member as it is spelled, from its key on. -/
def body (entry : Entry) : List Char :=
  StringLiteral.spelled entry.key ++ (entry.after ++ ':' :: entry.content.spelled)

/-- A member as it is spelled. -/
def spelled (entry : Entry) : List Char := entry.before ++ entry.body

/-- A member as a reader takes it up. -/
def member (entry : Entry) : Offer String × Doc :=
  (⟨StringLiteral.meaning entry.key, none⟩, entry.content.doc)

end Entry

/-- The text spells the document. -/
inductive Spells : List Char → Doc → Prop
  | null : Spells ['n', 'u', 'l', 'l'] null
  | yes : Spells ['t', 'r', 'u', 'e'] (bool true)
  | no : Spells ['f', 'a', 'l', 's', 'e'] (bool false)
  | number (spelling : Numeral.Spelling) :
      Spells spelling.text (number ⟨spelling.numeral.value, none⟩)
  | string (pieces : List StringLiteral.Piece) :
      Spells (StringLiteral.spelled pieces) (string ⟨StringLiteral.meaning pieces, none⟩)
  | list (blank : List Char) (isBlank : IsBlank blank) (items : List Slot)
      (each : ∀ item ∈ items, Spells item.text item.doc) :
      Spells ('[' :: (blank ++ (Value.commaSeparated (items.map Slot.spelled) ++ [']'])))
        (list (items.map Slot.doc) .closed)
  | object (blank : List Char) (isBlank : IsBlank blank) (members : List Entry)
      (each : ∀ entry ∈ members, Spells entry.content.text entry.content.doc) :
      Spells ('\x7b' :: (blank ++ (Value.commaSeparated (members.map Entry.spelled) ++ ['\x7d'])))
        (object (members.map Entry.member) .closed)

/-- A whole text of a document: blanks may stand before it and behind it. -/
def IsTextOf (doc : Doc) (text : String) : Prop :=
  ∃ before body after, IsBlank before ∧ Spells body doc ∧ IsBlank after ∧
    text.toList = before ++ (body ++ after)

/-- A member whose key is read without a fault. -/
def named (member : String × Doc) : Offer String × Doc := (⟨.ok member.1, none⟩, member.2)

/-- An object whose keys are all read without a fault. -/
def ofMembers (members : List (String × Doc)) : Doc := object (members.map named) .closed

theorem IsTextOf.exists_spells {doc : Doc} {text : String} (written : doc.IsTextOf text) :
    ∃ body, Spells body doc := by
  obtain ⟨before, body, after, -, spells, -⟩ := written
  exact ⟨body, spells⟩

/-! ## Blanks and the ends of values -/

theorem isBlank_nil : IsBlank [] := nofun

theorem skipSpace_append {blank : List Char} (isBlank : IsBlank blank) (text : List Char) :
    skipSpace (blank ++ text) = skipSpace text :=
  List.dropWhile_append_of_pos isBlank

theorem skipSpace_cons {c : Char} (solid : isSpace c = false) (text : List Char) :
    skipSpace (c :: text) = c :: text :=
  List.dropWhile_cons_of_neg (Bool.eq_false_iff.mp solid)

theorem skipSpace_skipSpace (text : List Char) : skipSpace (skipSpace text) = skipSpace text :=
  List.dropWhile_idempotent isSpace text

/-- Blanks are passed over up to what is none. -/
theorem skipSpace_blank {blank : List Char} (isBlank : IsBlank blank) {c : Char}
    (solid : isSpace c = false) (text : List Char) :
    skipSpace (blank ++ c :: text) = c :: text := by
  rw [skipSpace_append isBlank, skipSpace_cons solid]

/-- What may follow a value: a blank, a comma, a closing bracket or nothing. -/
def Delimited (rest : List Char) : Prop :=
  ∀ c ∈ rest.head?, isSpace c = true ∨ c = ',' ∨ c = ']' ∨ c = '\x7d'

theorem delimited_of_isBlank {blank rest : List Char} (isBlank : IsBlank blank)
    (delimited : Delimited rest) : Delimited (blank ++ rest) := by
  cases blank with
  | nil => exact delimited
  | cons c more =>
      intro first begun
      obtain rfl : c = first := by simpa using begun
      exact .inl (isBlank c List.mem_cons_self)

/-- A number goes on with nothing that may follow it. -/
theorem Delimited.endsNumeral {rest : List Char} (delimited : Delimited rest) :
    Numeral.EndsNumeral rest where
  noDigit c begun := by
    rcases delimited c begun with blank | rfl | rfl | rfl
    · simp only [isSpace, Bool.or_eq_true, decide_eq_true_eq] at blank
      rcases blank with ((rfl | rfl) | rfl) | rfl <;> rfl
    all_goals rfl
  noPoint begun := by simpa [isSpace] using delimited _ begun
  noMark := ⟨fun begun => by simpa [isSpace] using delimited _ begun,
    fun begun => by simpa [isSpace] using delimited _ begun⟩

/-- A character with which a value may begin. -/
structure Begins (c : Char) : Prop where
  solid : isSpace c = false
  noBracket : c ≠ ']'

/-- A number begins with a digit or a minus sign, so with no other character. -/
theorem exists_cons_of_number (spelling : Numeral.Spelling) :
    ∃ c more, spelling.text = c :: more ∧ (c = '-' ∨ c.isDigit = true) ∧
      ∀ other, other ≠ '-' → other.isDigit = false → c ≠ other := by
  obtain ⟨c, more, begun, digit, -⟩ := spelling.whole.exists_cons
  rw [Numeral.Spelling.text, begun]
  cases spelling.isNegative with
  | true => exact ⟨_, _, rfl, .inl rfl, fun other noMinus _ => noMinus.symm⟩
  | false => exact ⟨_, _, rfl, .inr digit, fun other _ => Numeral.ne_of_isDigit digit⟩

theorem begins_of_number {c : Char}
    (others : ∀ other, other ≠ '-' → other.isDigit = false → c ≠ other) : Begins c where
  solid := by
    simp only [isSpace, Bool.or_eq_false_iff, decide_eq_false_iff_not]
    exact ⟨⟨⟨others _ (by decide) rfl, others _ (by decide) rfl⟩, others _ (by decide) rfl⟩,
      others _ (by decide) rfl⟩
  noBracket := others _ (by decide) rfl

theorem Spells.exists_cons {text : List Char} {doc : Doc} (spells : Spells text doc) :
    ∃ c more, text = c :: more ∧ Begins c := by
  cases spells with
  | number spelling =>
      obtain ⟨c, more, begun, -, others⟩ := exists_cons_of_number spelling
      exact ⟨c, more, begun, begins_of_number others⟩
  | _ => exact ⟨_, _, rfl, rfl, by decide⟩

/-- What is spelled is not torn. -/
theorem Spells.torn? {text : List Char} {doc : Doc} (spells : Spells text doc) :
    doc.torn? = none := by
  cases spells <;> rfl

/-- The values of the members of a spelled object are spelled themselves. -/
theorem Spells.of_mem {text : List Char} {members : List (String × Doc)}
    (spells : Spells text (ofMembers members)) {member : String × Doc} (inside : member ∈ members) :
    ∃ content, Spells content member.2 := by
  rw [ofMembers] at spells
  generalize listed : members.map named = offers at spells
  cases spells with
  | object blank isBlank entries each =>
      have offered : named member ∈ entries.map Entry.member := by
        rw [← listed]
        exact List.mem_map_of_mem inside
      obtain ⟨entry, known, same⟩ := List.mem_map.mp offered
      have content : entry.content.doc = member.2 := congrArg Prod.snd same
      exact ⟨_, content ▸ each entry known⟩

theorem Spells.whole {text : List Char} {members : List (String × Doc)}
    (spells : Spells text (ofMembers members)) : ∀ member ∈ members, member.2.torn? = none := by
  intro member inside
  obtain ⟨content, spelled⟩ := spells.of_mem inside
  exact spelled.torn?

end Doc

end LedMatrix.Json
