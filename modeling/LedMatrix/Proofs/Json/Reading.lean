/-
# Reading what is spelled

A text that spells a document is read as this document, however deeply it is nested and
whatever blanks it holds (`Doc.ofText_of_isTextOf`), so that a reader of values makes the same
of every text of a document (`decode_of_isTextOf`).

The reader goes on for a number of rounds, and every round takes at least one character. What
is carried through a text is therefore that more rounds are left than characters
(`Doc.GoesThrough`); how many rounds there were at the start never plays a part.
-/

import LedMatrix.Proofs.Json.Spelling

namespace LedMatrix.Json

namespace Doc

/-! ## Reading -/

/-- A reader in front of a text goes through it: it comes to stand behind the document, with
the text that follows and with rounds to spare. -/
def GoesThrough (text : List Char) (doc : Doc) : Prop :=
  ∀ (outer : List Frame) (rest : List Char) (rounds : Nat), Delimited rest →
    (text ++ rest).length < rounds →
      ∃ left, rest.length < left ∧
        read rounds .value outer (text ++ rest) = read left (.after doc) outer rest

/-- A value that is no container is read in one round. -/
theorem goesThrough_scalar {text : List Char} {doc : Doc} {c : Char} {more : List Char}
    (begun : text = c :: more) (begins : Begins c) (noList : c ≠ '[') (noObject : c ≠ '\x7b')
    (whole : doc.torn? = none)
    (scanned : ∀ rest, Delimited rest → scanScalar (text ++ rest) = (doc, rest)) :
    GoesThrough text doc := by
  intro outer rest rounds delimited enough
  subst begun
  cases rounds with
  | zero => cases enough
  | succ rounds =>
      refine ⟨rounds, ?_, ?_⟩
      · simp at enough
        omega
      · have scanned := scanned rest delimited
        rw [List.cons_append] at scanned ⊢
        rw [read, skipSpace_cons begins.solid]
        split
        · next same => exact absurd (List.cons.inj same).1 noList
        · next same => exact absurd (List.cons.inj same).1 noObject
        · rw [scanned]
          dsimp only
          rw [whole]

theorem goesThrough_number (spelling : Numeral.Spelling) :
    GoesThrough spelling.text (.number ⟨spelling.numeral.value, none⟩) := by
  obtain ⟨c, more, begun, start, others⟩ := exists_cons_of_number spelling
  refine goesThrough_scalar begun (begins_of_number others) (others _ (by decide) rfl)
    (others _ (by decide) rfl) rfl fun rest delimited => ?_
  have scanned := Numeral.scan_spelling spelling delimited.endsNumeral
  have noQuote : c ≠ '"' := others _ (by decide) rfl
  have noNull : c ≠ 'n' := others _ (by decide) rfl
  have noTrue : c ≠ 't' := others _ (by decide) rfl
  have noFalse : c ≠ 'f' := others _ (by decide) rfl
  rw [begun, List.cons_append] at scanned ⊢
  rw [scanScalar, if_pos start, scanned]
  all_goals grind

theorem goesThrough_string (pieces : List StringLiteral.Piece) :
    GoesThrough (StringLiteral.spelled pieces)
      (.string ⟨StringLiteral.meaning pieces, none⟩) := by
  refine goesThrough_scalar rfl ⟨rfl, by decide⟩ (by decide) (by decide) rfl fun rest _ => ?_
  rw [StringLiteral.spelled, List.append_assoc, List.cons_append]
  change scanScalar ('"' :: (pieces.flatMap StringLiteral.Piece.text ++ '"' :: rest)) = _
  rw [scanScalar, StringLiteral.scan_spelled]

theorem goesThrough_null : GoesThrough ['n', 'u', 'l', 'l'] null :=
  goesThrough_scalar rfl ⟨rfl, by decide⟩ (by decide) (by decide) rfl fun _ _ => rfl

theorem goesThrough_yes : GoesThrough ['t', 'r', 'u', 'e'] (bool true) :=
  goesThrough_scalar rfl ⟨rfl, by decide⟩ (by decide) (by decide) rfl fun _ _ => rfl

theorem goesThrough_no : GoesThrough ['f', 'a', 'l', 's', 'e'] (bool false) :=
  goesThrough_scalar rfl ⟨rfl, by decide⟩ (by decide) (by decide) rfl fun _ _ => rfl

/-! ### The steps of a reader of containers -/

section Steps

variable {rounds : Nat} {outer : List Frame} {text more rest : List Char} {doc : Doc}
  {items : List Doc} {members : List (Offer String × Doc)} {key : Offer String}

theorem read_value_skipSpace (rounds : Nat) (outer : List Frame) (text : List Char) :
    read rounds .value outer (skipSpace text) = read rounds .value outer text := by
  cases rounds with
  | zero => rfl
  | succ rounds => rw [read, read, skipSpace_skipSpace]

theorem read_emptyList (ended : skipSpace text = ']' :: rest) :
    read (rounds + 1) .value outer ('[' :: text) =
      read rounds (.after (list [] .closed)) outer rest := by
  rw [read, skipSpace_cons rfl]
  simp [ended]

theorem read_list {c : Char} (begun : skipSpace text = c :: more) (noBracket : c ≠ ']') :
    read (rounds + 1) .value outer ('[' :: text) = read rounds .value (.list [] :: outer) text := by
  rw [← read_value_skipSpace rounds, read, skipSpace_cons rfl]
  simp [begun, noBracket]

theorem read_nextItem (comma : skipSpace text = ',' :: more) {c : Char}
    (begun : skipSpace more = c :: rest) (noBracket : c ≠ ']') :
    read (rounds + 1) (.after doc) (.list items :: outer) text =
      read rounds .value (.list (doc :: items) :: outer) more := by
  rw [← read_value_skipSpace rounds, read]
  simp [comma, begun, noBracket]

theorem read_listEnd (ended : skipSpace text = ']' :: rest) :
    read (rounds + 1) (.after doc) (.list items :: outer) text =
      read rounds (.after (list (doc :: items).reverse .closed)) outer rest := by
  rw [read]
  simp [ended]

theorem read_emptyObject (ended : skipSpace text = '\x7d' :: rest) :
    read (rounds + 1) .value outer ('\x7b' :: text) =
      read rounds (.after (object [] .closed)) outer rest := by
  rw [read, skipSpace_cons rfl]
  simp [ended]

theorem read_object (begun : skipSpace text = '"' :: more) :
    read (rounds + 1) .value outer ('\x7b' :: text) =
      read rounds (.key []) outer ('"' :: more) := by
  rw [read, skipSpace_cons rfl]
  simp [begun]

theorem read_key (pieces : List StringLiteral.Piece) (colon : skipSpace text = ':' :: rest) :
    read (rounds + 1) (.key members) outer (StringLiteral.spelled pieces ++ text) =
      read rounds .value (.object members ⟨StringLiteral.meaning pieces, none⟩ :: outer) rest := by
  rw [StringLiteral.spelled, List.append_assoc, List.cons_append, List.singleton_append, read,
    StringLiteral.scan_spelled]
  simp [colon]

theorem read_nextMember (comma : skipSpace text = ',' :: more)
    (begun : skipSpace more = '"' :: rest) :
    read (rounds + 1) (.after doc) (.object members key :: outer) text =
      read rounds (.key ((key, doc) :: members)) outer ('"' :: rest) := by
  rw [read]
  simp [comma, begun]

theorem read_objectEnd (ended : skipSpace text = '\x7d' :: rest) :
    read (rounds + 1) (.after doc) (.object members key :: outer) text =
      read rounds (.after (object ((key, doc) :: members).reverse .closed)) outer rest := by
  rw [read]
  simp [ended]

end Steps

/-! ### Containers -/

theorem read_value_blank {blank : List Char} (isBlank : IsBlank blank) (rounds : Nat)
    (outer : List Frame) (text : List Char) :
    read rounds .value outer (blank ++ text) = read rounds .value outer text := by
  rw [← read_value_skipSpace, skipSpace_append isBlank, read_value_skipSpace]

/-- The blanks around a value are passed over. -/
theorem read_slot {slot : Slot} (through : GoesThrough slot.text slot.doc) (outer : List Frame)
    {rest : List Char} (delimited : Delimited rest) {rounds : Nat}
    (enough : (slot.spelled ++ rest).length < rounds) :
    ∃ left, rest.length < left ∧
      read rounds .value outer (slot.spelled ++ rest) =
        read left (.after slot.doc) outer (slot.after ++ rest) := by
  rw [Slot.spelled, List.append_assoc, List.append_assoc] at enough ⊢
  rw [read_value_blank slot.before_blank]
  obtain ⟨left, spare, reads⟩ := through outer (slot.after ++ rest) rounds
    (delimited_of_isBlank slot.after_blank delimited)
    (by simp only [List.length_append] at enough ⊢; omega)
  exact ⟨left, by simp only [List.length_append] at spare; omega, reads⟩

/-- A key, its colon and the blanks around them are passed over, and so is the value. -/
theorem read_entry {entry : Entry}
    (through : GoesThrough entry.content.text entry.content.doc)
    (done : List (Offer String × Doc)) (outer : List Frame) {rest : List Char}
    (delimited : Delimited rest) {rounds : Nat} (enough : (entry.body ++ rest).length < rounds) :
    ∃ left, rest.length < left ∧
      read rounds (.key done) outer (entry.body ++ rest) =
        read left (.after entry.content.doc)
          (.object done ⟨StringLiteral.meaning entry.key, none⟩ :: outer)
          (entry.content.after ++ rest) := by
  rw [Entry.body, List.append_assoc, List.append_assoc, List.cons_append] at enough ⊢
  cases rounds with
  | zero => cases enough
  | succ rounds =>
      rw [read_key entry.key (skipSpace_blank entry.after_blank rfl _)]
      refine read_slot through _ delimited ?_
      simp only [List.length_append, List.length_cons] at enough ⊢
      omega

theorem commaSeparated_cons_cons (first second : List Char) (more : List (List Char)) :
    Value.commaSeparated (first :: second :: more) =
      first ++ ',' :: Value.commaSeparated (second :: more) := rfl

/-- The parts of a container that has any begin with the first one. -/
theorem commaSeparated_cons (first : List Char) (more : List (List Char)) :
    ∃ tail, Value.commaSeparated (first :: more) = first ++ tail := by
  cases more with
  | nil => exact ⟨[], (List.append_nil first).symm⟩
  | cons second more => exact ⟨_, commaSeparated_cons_cons first second more⟩

theorem commaSeparated_append_cons (blank first : List Char) (more : List (List Char)) :
    Value.commaSeparated ((blank ++ first) :: more) =
      blank ++ Value.commaSeparated (first :: more) := by
  cases more with
  | nil => rfl
  | cons second more =>
      rw [commaSeparated_cons_cons, commaSeparated_cons_cons, List.append_assoc]

/-- Items begin with a value, and with no closing bracket. -/
theorem skipSpace_items {first : Slot} (spells : Spells first.text first.doc)
    (more : List (List Char)) (rest : List Char) :
    ∃ c text, skipSpace (Value.commaSeparated (first.spelled :: more) ++ rest) = c :: text ∧
      c ≠ ']' := by
  obtain ⟨tail, begins⟩ := commaSeparated_cons first.spelled more
  obtain ⟨c, text, begun, solid⟩ := spells.exists_cons
  refine ⟨c, text ++ (first.after ++ (tail ++ rest)), ?_, solid.noBracket⟩
  rw [begins, Slot.spelled, List.append_assoc, List.append_assoc, List.append_assoc,
    skipSpace_append first.before_blank, begun, List.cons_append, skipSpace_cons solid.solid]

/-- Members begin with a quote. -/
theorem skipSpace_members (first : Entry) (more : List (List Char)) (rest : List Char) :
    ∃ text, Value.commaSeparated (first.body :: more) ++ rest = '"' :: text ∧
      skipSpace (Value.commaSeparated (first.spelled :: more) ++ rest) = '"' :: text := by
  obtain ⟨tail, begins⟩ := commaSeparated_cons first.body more
  refine ⟨_, by rw [begins]; rfl, ?_⟩
  rw [Entry.spelled, commaSeparated_append_cons, List.append_assoc,
    skipSpace_append first.before_blank, begins]
  exact skipSpace_cons rfl _

theorem delimited_cons {c : Char} (ends : c = ',' ∨ c = ']' ∨ c = '\x7d') (rest : List Char) :
    Delimited (c :: rest) := by
  rintro _ ⟨⟩
  exact .inr ends

/-- Items are read one by one up to the closing bracket. -/
theorem read_items {first : Slot} {items : List Slot}
    (each : ∀ item ∈ first :: items, Spells item.text item.doc)
    (through : ∀ item ∈ first :: items, GoesThrough item.text item.doc)
    (done : List Doc) (outer : List Frame) (rest : List Char) {rounds : Nat}
    (enough : (Value.commaSeparated (first.spelled :: items.map Slot.spelled) ++
      ']' :: rest).length < rounds) :
    ∃ left, rest.length < left ∧
      read rounds .value (.list done :: outer)
          (Value.commaSeparated (first.spelled :: items.map Slot.spelled) ++ ']' :: rest) =
        read left (.after (list (done.reverse ++ (first :: items).map Slot.doc) .closed))
          outer rest := by
  induction items generalizing first done rounds with
  | nil =>
      obtain ⟨left, spare, reads⟩ := read_slot (through first List.mem_cons_self)
        (.list done :: outer) (delimited_cons (by simp) rest) enough
      cases left with
      | zero => cases spare
      | succ left =>
          refine ⟨left, Nat.lt_of_succ_lt_succ spare, reads.trans ?_⟩
          rw [read_listEnd (skipSpace_blank first.after_blank rfl rest), List.reverse_cons]
          rfl
  | cons second items ih =>
      rw [List.map_cons, commaSeparated_cons_cons, List.append_assoc, List.cons_append] at enough ⊢
      obtain ⟨left, spare, reads⟩ := read_slot (through first List.mem_cons_self)
        (.list done :: outer) (delimited_cons (by simp) _) enough
      cases left with
      | zero => cases spare
      | succ left =>
          obtain ⟨last, spareLast, readsLast⟩ := ih
            (fun item member => each item (List.mem_cons_of_mem first member))
            (fun item member => through item (List.mem_cons_of_mem first member))
            (first.doc :: done) (Nat.lt_of_succ_lt_succ spare)
          obtain ⟨c, text, begun, noBracket⟩ := skipSpace_items
            (each second (List.mem_cons_of_mem first List.mem_cons_self))
            (items.map Slot.spelled) (']' :: rest)
          refine ⟨last, spareLast, reads.trans ?_⟩
          rw [read_nextItem (skipSpace_blank first.after_blank rfl _) begun noBracket, readsLast,
            List.reverse_cons, List.append_assoc]
          rfl

/-- Members are read one by one up to the closing brace. -/
theorem read_members {first : Entry} {members : List Entry}
    (through : ∀ entry ∈ first :: members, GoesThrough entry.content.text entry.content.doc)
    (done : List (Offer String × Doc)) (outer : List Frame) (rest : List Char) {rounds : Nat}
    (enough : (Value.commaSeparated (first.body :: members.map Entry.spelled) ++
      '\x7d' :: rest).length < rounds) :
    ∃ left, rest.length < left ∧
      read rounds (.key done) outer
          (Value.commaSeparated (first.body :: members.map Entry.spelled) ++ '\x7d' :: rest) =
        read left (.after (object (done.reverse ++ (first :: members).map Entry.member) .closed))
          outer rest := by
  induction members generalizing first done rounds with
  | nil =>
      obtain ⟨left, spare, reads⟩ := read_entry (through first List.mem_cons_self)
        done outer (delimited_cons (by simp) rest) enough
      cases left with
      | zero => cases spare
      | succ left =>
          refine ⟨left, Nat.lt_of_succ_lt_succ spare, reads.trans ?_⟩
          rw [read_objectEnd (skipSpace_blank first.content.after_blank rfl rest),
            List.reverse_cons]
          rfl
  | cons second members ih =>
      rw [List.map_cons, commaSeparated_cons_cons, List.append_assoc, List.cons_append] at enough ⊢
      obtain ⟨left, spare, reads⟩ := read_entry (through first List.mem_cons_self)
        done outer (delimited_cons (by simp) _) enough
      cases left with
      | zero => cases spare
      | succ left =>
          obtain ⟨text, whole, begun⟩ := skipSpace_members second
            (members.map Entry.spelled) ('\x7d' :: rest)
          have fewer : (Value.commaSeparated (second.body :: members.map Entry.spelled) ++
              '\x7d' :: rest).length < left := by
            rw [Entry.spelled, commaSeparated_append_cons] at spare
            simp only [List.length_append, List.length_cons] at spare ⊢
            omega
          obtain ⟨last, spareLast, readsLast⟩ := ih
            (fun entry member => through entry (List.mem_cons_of_mem first member))
            (first.member :: done) fewer
          refine ⟨last, spareLast, reads.trans ?_⟩
          rw [read_nextMember (skipSpace_blank first.content.after_blank rfl _) begun, ← whole]
          refine readsLast.trans ?_
          rw [List.reverse_cons, List.append_assoc]
          rfl

theorem goesThrough_list {blank : List Char} (isBlank : IsBlank blank) {items : List Slot}
    (each : ∀ item ∈ items, Spells item.text item.doc)
    (through : ∀ item ∈ items, GoesThrough item.text item.doc) :
    GoesThrough ('[' :: (blank ++ (Value.commaSeparated (items.map Slot.spelled) ++ [']'])))
      (list (items.map Slot.doc) .closed) := by
  intro outer rest rounds _ enough
  rw [List.cons_append, List.append_assoc, List.append_assoc, List.singleton_append] at enough ⊢
  cases rounds with
  | zero => cases enough
  | succ rounds =>
      have fewer : (Value.commaSeparated (items.map Slot.spelled) ++ ']' :: rest).length
          < rounds := by
        simp only [List.length_cons, List.length_append] at enough ⊢
        omega
      cases items with
      | nil =>
          exact ⟨rounds, Nat.lt_of_succ_lt fewer,
            read_emptyList (skipSpace_blank isBlank rfl rest)⟩
      | cons first items =>
          obtain ⟨left, spare, reads⟩ := read_items each through [] outer rest fewer
          obtain ⟨c, text, begun, noBracket⟩ := skipSpace_items
            (each first List.mem_cons_self) (items.map Slot.spelled) (']' :: rest)
          refine ⟨left, spare, ?_⟩
          rw [List.map_cons, read_list ((skipSpace_append isBlank _).trans begun) noBracket,
            read_value_blank isBlank]
          exact reads

theorem goesThrough_object {blank : List Char} (isBlank : IsBlank blank) {members : List Entry}
    (through : ∀ entry ∈ members, GoesThrough entry.content.text entry.content.doc) :
    GoesThrough
      ('\x7b' :: (blank ++ (Value.commaSeparated (members.map Entry.spelled) ++ ['\x7d'])))
      (object (members.map Entry.member) .closed) := by
  intro outer rest rounds _ enough
  rw [List.cons_append, List.append_assoc, List.append_assoc, List.singleton_append] at enough ⊢
  cases rounds with
  | zero => cases enough
  | succ rounds =>
      cases members with
      | nil =>
          refine ⟨rounds, ?_, read_emptyObject (skipSpace_blank isBlank rfl rest)⟩
          simp only [List.length_cons, List.length_append] at enough
          omega
      | cons first members =>
          obtain ⟨text, whole, begun⟩ := skipSpace_members first
            (members.map Entry.spelled) ('\x7d' :: rest)
          have fewer : (Value.commaSeparated (first.body :: members.map Entry.spelled) ++
              '\x7d' :: rest).length < rounds := by
            rw [List.map_cons, Entry.spelled, commaSeparated_append_cons] at enough
            simp only [List.length_append, List.length_cons] at enough ⊢
            omega
          obtain ⟨left, spare, reads⟩ := read_members through [] outer rest fewer
          refine ⟨left, spare, ?_⟩
          rw [List.map_cons, read_object ((skipSpace_append isBlank _).trans begun), ← whole]
          exact reads

/-! ## Whole texts -/

/-- **A reader goes through every text that spells a document.** -/
theorem Spells.goesThrough {text : List Char} {doc : Doc} (spells : Spells text doc) :
    GoesThrough text doc := by
  induction spells with
  | null => exact goesThrough_null
  | yes => exact goesThrough_yes
  | no => exact goesThrough_no
  | number spelling => exact goesThrough_number spelling
  | string pieces => exact goesThrough_string pieces
  | list blank isBlank items each through => exact goesThrough_list isBlank each through
  | object blank isBlank members each through => exact goesThrough_object isBlank through

/-- **A text is read as the document that it spells.** -/
theorem ofText_of_isTextOf {doc : Doc} {text : String} (written : IsTextOf doc text) :
    ∃ rest, IsBlank rest ∧ ofText text.toList = (doc, rest) := by
  obtain ⟨before, body, after, before_blank, spells, after_blank, split⟩ := written
  refine ⟨after, after_blank, ?_⟩
  have delimited : Delimited after := by
    rw [← List.append_nil after]
    exact delimited_of_isBlank after_blank nofun
  rw [ofText, split, read_value_blank before_blank]
  have enough : (body ++ after).length < (before ++ (body ++ after)).length + 1 := by
    simp only [List.length_append]
    omega
  obtain ⟨left, spare, reads⟩ := spells.goesThrough [] after _ delimited enough
  cases left with
  | zero => cases spare
  | succ left => rw [reads, read_after_nil]

end Doc

/-- What a reader makes of a document is what it makes of every text of it. -/
theorem decode_of_isTextOf {α : Type} {reader : Doc → Except Fault α} {doc : Doc} {value : α}
    (reads : reader doc = .ok value) {text : String} (written : doc.IsTextOf text) :
    decode reader text = .ok value := by
  obtain ⟨rest, blank, whole⟩ := Doc.ofText_of_isTextOf written
  have ended : Doc.skipSpace rest = [] := by
    rw [← List.append_nil rest, Doc.skipSpace_append blank]
    rfl
  rw [decode, whole]
  simp only [reads, ended, bind, Except.bind]
  rfl

end LedMatrix.Json
