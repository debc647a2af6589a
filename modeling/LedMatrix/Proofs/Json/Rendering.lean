/-
# What is written can be read

A value is written as a text of one document (`Value.doc`), as long as its numbers are those of
one word: larger ones would come back as doubles. Nothing that is written goes beyond its line,
whatever characters its strings hold.
-/

import LedMatrix.Proofs.Json.Spelling

namespace LedMatrix.Json

namespace Value

/-- A value whose whole numbers are those of one word, with a sign or without. -/
inductive Fits : Value → Prop
  | null : Fits null
  | bool (value : Bool) : Fits (bool value)
  | integer {value : Int} (lower : -0x8000000000000000 ≤ value)
      (upper : value ≤ Numeral.maxWord) : Fits (integer value)
  | string (text : String) : Fits (string text)
  | list {items : List Value} (each : ∀ item ∈ items, Fits item) : Fits (list items)
  | object {members : List (String × Value)} (each : ∀ member ∈ members, Fits member.2) :
      Fits (object members)

/-! ## The document of a value -/

mutual

/-- What a reader finds in the text of a value. -/
def doc : Value → Doc
  | null => .null
  | bool value => .bool value
  | integer value =>
      .number ⟨.ok (if value < 0 then .negative value else .natural value.toNat), none⟩
  | string text => .string ⟨.ok text, none⟩
  | list items => .list (itemDocs items) .closed
  | object members => .ofMembers (memberDocs members)

def itemDocs : List Value → List Doc
  | [] => []
  | item :: rest => doc item :: itemDocs rest

def memberDocs : List (String × Value) → List (String × Doc)
  | [] => []
  | member :: rest => memberDoc member :: memberDocs rest

/-- A member that is written under its key. -/
def memberDoc : String × Value → String × Doc
  | (key, content) => (key, doc content)

end

theorem memberDocs_eq_map (members : List (String × Value)) :
    memberDocs members = members.map memberDoc := by
  induction members with
  | nil => rfl
  | cons member rest ih => rw [memberDocs, ih, List.map_cons]

theorem doc_object (members : List (String × Value)) :
    doc (object members) = .ofMembers (members.map memberDoc) := by
  rw [doc, memberDocs_eq_map]

@[simp] theorem memberDoc_eq (member : String × Value) :
    memberDoc member = (member.1, member.2.doc) := by
  cases member
  rfl

/-- The members of an object; other values have none. -/
def members : Value → List (String × Value)
  | object members => members
  | _ => []

/-- Items are written without blanks around them. -/
theorem exists_slots {items : List Value}
    (each : ∀ item ∈ items, Doc.Spells item.renderChars item.doc) :
    ∃ slots : List Doc.Slot, slots.map Doc.Slot.spelled = renderItems items ∧
      slots.map Doc.Slot.doc = itemDocs items ∧
      ∀ slot ∈ slots, Doc.Spells slot.text slot.doc := by
  induction items with
  | nil => exact ⟨[], rfl, rfl, nofun⟩
  | cons item rest ih =>
      obtain ⟨slots, spelled, docs, spells⟩ :=
        ih fun other member => each other (List.mem_cons_of_mem item member)
      let slot : Doc.Slot :=
        ⟨[], item.renderChars, [], item.doc, Doc.isBlank_nil, Doc.isBlank_nil⟩
      have slotSpelled : slot.spelled = item.renderChars := List.append_nil _
      refine ⟨slot :: slots, ?_, ?_, ?_⟩
      · rw [List.map_cons, spelled, slotSpelled, renderItems]
      · rw [List.map_cons, docs, itemDocs]
      · exact List.forall_mem_cons.mpr ⟨each item List.mem_cons_self, spells⟩

/-- Members are written without blanks around them. -/
theorem exists_entries {members : List (String × Value)}
    (each : ∀ member ∈ members, Doc.Spells member.2.renderChars member.2.doc) :
    ∃ entries : List Doc.Entry, entries.map Doc.Entry.spelled = renderMembers members ∧
      entries.map Doc.Entry.member = (memberDocs members).map Doc.named ∧
      ∀ entry ∈ entries, Doc.Spells entry.content.text entry.content.doc := by
  induction members with
  | nil => exact ⟨[], rfl, rfl, nofun⟩
  | cons member rest ih =>
      obtain ⟨entries, spelled, docs, spells⟩ :=
        ih fun other inside => each other (List.mem_cons_of_mem member inside)
      have first := each member List.mem_cons_self
      obtain ⟨key, content⟩ := member
      obtain ⟨pieces, written, means⟩ := StringLiteral.exists_pieces_renderString key
      let slot : Doc.Slot :=
        ⟨[], content.renderChars, [], content.doc, Doc.isBlank_nil, Doc.isBlank_nil⟩
      let entry : Doc.Entry := ⟨[], pieces, [], slot, Doc.isBlank_nil, Doc.isBlank_nil⟩
      have slotSpelled : slot.spelled = content.renderChars := List.append_nil _
      have entrySpelled : entry.spelled = renderMember (key, content) := by
        change StringLiteral.spelled pieces ++ ':' :: slot.spelled = _
        rw [written, slotSpelled, renderMember]
      have entryMember : entry.member = Doc.named (memberDoc (key, content)) := by
        rw [Doc.Entry.member, means]
        rfl
      refine ⟨entry :: entries, ?_, ?_, ?_⟩
      · rw [List.map_cons, spelled, entrySpelled, renderMembers]
      · rw [List.map_cons, docs, entryMember, memberDocs, List.map_cons]
      · exact List.forall_mem_cons.mpr ⟨first, spells⟩

/-- **What is written for a value spells its document.** -/
theorem Fits.spells_renderChars {value : Value} (fits : value.Fits) :
    Doc.Spells value.renderChars value.doc := by
  induction fits with
  | null => exact .null
  | bool value =>
      cases value with
      | true => exact .yes
      | false => exact .no
  | @integer value lower upper =>
      have spells := Doc.Spells.number (Numeral.ofInt value)
      rw [Numeral.text_ofInt, Numeral.value_ofInt lower upper] at spells
      rw [renderChars, doc]
      exact spells
  | string text =>
      obtain ⟨pieces, written, means⟩ := StringLiteral.exists_pieces_renderString text
      have spells := Doc.Spells.string pieces
      rw [written, means] at spells
      rw [renderChars, doc]
      exact spells
  | @list items _ each =>
      obtain ⟨slots, spelled, docs, spells⟩ := exists_slots each
      rw [renderChars, doc, ← spelled, ← docs]
      exact .list [] Doc.isBlank_nil slots spells
  | @object members _ each =>
      obtain ⟨entries, spelled, docs, spells⟩ := exists_entries each
      rw [renderChars, doc, Doc.ofMembers, ← spelled, ← docs]
      exact .object [] Doc.isBlank_nil entries spells

theorem Fits.isTextOf_render {value : Value} (fits : value.Fits) :
    value.doc.IsTextOf value.render := by
  refine ⟨[], value.renderChars, [], Doc.isBlank_nil, fits.spells_renderChars,
    Doc.isBlank_nil, ?_⟩
  rw [render, String.toList_ofList, List.append_nil, List.nil_append]

/-! ## Lines -/

/-- A text without control characters, so within one line. -/
def Visible (text : List Char) : Prop := ∀ c ∈ text, 0x20 ≤ c.toNat

theorem visible_append {first second : List Char} :
    Visible (first ++ second) ↔ Visible first ∧ Visible second := List.forall_mem_append

theorem visible_cons {c : Char} {text : List Char} :
    Visible (c :: text) ↔ 0x20 ≤ c.toNat ∧ Visible text := List.forall_mem_cons

theorem visible_nil : Visible [] := nofun

/-- Control characters are escaped, and by visible characters. -/
theorem visible_escapedChar (c : Char) : Visible (escapedChar c) := by
  have digits : ∀ n < 16, 0x20 ≤ (Nat.digitChar n).toNat := by decide
  unfold escapedChar Visible
  repeat' split
  all_goals
    simp only [List.forall_mem_cons, List.not_mem_nil, false_implies, implies_true, and_true]
  · decide
  · decide
  · decide
  · decide
  · decide
  · decide
  · decide
  · next control =>
      exact ⟨by decide, by decide, by decide, by decide, digits _ (by omega), digits _ (by omega)⟩
  · next visible => exact Nat.not_lt.mp visible

theorem visible_renderString (text : String) : Visible (renderString text) := by
  have inside : Visible (text.toList.flatMap escapedChar) := by
    intro c member
    obtain ⟨source, -, escaped⟩ := List.mem_flatMap.mp member
    exact visible_escapedChar source c escaped
  rw [renderString, visible_append, visible_cons]
  exact ⟨⟨by decide, inside⟩, by simp [Visible]⟩

theorem visible_of_isDigit {c : Char} (digit : c.isDigit = true) : 0x20 ≤ c.toNat := by
  have zero : 0x20 ≤ '0'.toNat := by decide
  exact Nat.le_trans zero (Numeral.toNat_of_isDigit digit).1

theorem visible_renderInteger (value : Int) : Visible (renderInteger value) := by
  have digits : Visible (Nat.toDigits 10 value.natAbs) := fun c member =>
    visible_of_isDigit (Nat.isDigit_of_mem_toDigits (by decide) (by decide) member)
  rw [renderInteger]
  split
  · exact visible_cons.mpr ⟨by decide, digits⟩
  · exact digits

theorem visible_commaSeparated {parts : List (List Char)}
    (each : ∀ part ∈ parts, Visible part) : Visible (commaSeparated parts) := by
  induction parts with
  | nil => exact visible_nil
  | cons part rest ih =>
      obtain ⟨first, others⟩ := List.forall_mem_cons.mp each
      cases rest with
      | nil => exact first
      | cons second more =>
          exact visible_append.mpr ⟨first, visible_cons.mpr ⟨by decide, ih others⟩⟩

mutual

/-- **No control character is written.** -/
theorem visible_renderChars : (value : Value) → Visible value.renderChars
  | null => by simp [renderChars, Visible]
  | bool true => by simp [renderChars, Visible]
  | bool false => by simp [renderChars, Visible]
  | integer value => by
      rw [renderChars]
      exact visible_renderInteger value
  | string text => by
      rw [renderChars]
      exact visible_renderString text
  | list items => by
      rw [renderChars, visible_append, visible_cons]
      exact ⟨⟨by decide, visible_commaSeparated (visible_renderItems items)⟩, by simp [Visible]⟩
  | object members => by
      rw [renderChars, visible_append, visible_cons]
      exact ⟨⟨by decide, visible_commaSeparated (visible_renderMembers members)⟩,
        by simp [Visible]⟩

theorem visible_renderItems : (items : List Value) → ∀ part ∈ renderItems items, Visible part
  | [] => nofun
  | item :: rest =>
      List.forall_mem_cons.mpr ⟨visible_renderChars item, visible_renderItems rest⟩

theorem visible_renderMembers : (members : List (String × Value)) →
    ∀ part ∈ renderMembers members, Visible part
  | [] => nofun
  | member :: rest =>
      List.forall_mem_cons.mpr ⟨visible_renderMember member, visible_renderMembers rest⟩

theorem visible_renderMember : (member : String × Value) → Visible (renderMember member)
  | (key, content) => by
      rw [renderMember, visible_append, visible_cons]
      exact ⟨visible_renderString key, by decide, visible_renderChars content⟩

end

end Value

end LedMatrix.Json
