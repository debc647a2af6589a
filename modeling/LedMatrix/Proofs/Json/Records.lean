/-
# Records read in any order

A reader of a record meets the members of an object in the order of the text and overwrites one
part of the record with each member that it knows. If every such member carries the part of one
and the same record, the order cannot matter: what has been read so far is that record as far as
the names that were met, and the start everywhere else (`Schema.readMembers_named`). The result
depends on which names were met and on nothing else (`Schema.reader_ofMembers`), and members
that the record does not know leave no trace.

`taken` is always such a family of records: `taken names` has the parts with these names from
the record that is carried.
-/

import LedMatrix.Json.Reader
import LedMatrix.Proofs.Json.Rendering
import Mathlib.Logic.Function.Basic

namespace LedMatrix.Json

variable {σ : Type}

/-! ## One member -/

/-- The content carries the part of the field, whatever has been taken before. -/
def RecordField.Carries (field : RecordField σ) (taken : (String → Bool) → σ)
    (content : Doc) : Prop :=
  ∀ names, field.read content (taken names) = .ok (taken (Function.update names field.name true))

/-- A field carries what its reader reads, if that is the part that it replaces. -/
theorem RecordField.carries_into {α : Type} {name : String} {reader : Reader α}
    {replace : σ → α → σ} {taken : (String → Bool) → σ} {content : Doc} {value : α}
    (reads : reader content = .ok value)
    (replaces : ∀ names, replace (taken names) value = taken (Function.update names name true)) :
    (RecordField.into name reader replace).Carries taken content := by
  intro names
  change (reader content >>= fun value => pure (replace (taken names) value)) = _
  rw [reads]
  exact congrArg Except.ok (replaces names)

/-- Neither other names nor the need for a field have a part in what it carries. -/
theorem RecordField.carries_with {α : Type} {name : String} {aliases : List String}
    {isRequired : Bool} {reader : Reader α} {replace : σ → α → σ} {taken : (String → Bool) → σ}
    {content : Doc} {value : α} (reads : reader content = .ok value)
    (replaces : ∀ names, replace (taken names) value = taken (Function.update names name true)) :
    { RecordField.into name reader replace with aliases, isRequired }.Carries taken content :=
  RecordField.carries_into reads replaces

namespace Schema

/-- The field to which a key belongs. -/
def fieldOf? (schema : Schema σ) (key : String) : Option (RecordField σ) :=
  schema.fields.find? (·.matchesKey key)

/-- The names of the fields to which the members belong. -/
def namesIn (schema : Schema σ) (members : List (String × Doc)) : List String :=
  members.filterMap fun member => (schema.fieldOf? member.1).map (·.name)

/-- A member that carries its part. -/
def Takes (schema : Schema σ) (taken : (String → Bool) → σ) (member : String × Doc) : Prop :=
  ∃ field, schema.fieldOf? member.1 = some field ∧ field.Carries taken member.2

/-- A member that the record does not know and that can be skipped. -/
structure Skips (schema : Schema σ) (member : String × Doc) : Prop where
  unknown : schema.fieldOf? member.1 = none
  whole : member.2.torn? = none

variable {schema : Schema σ} {taken : (String → Bool) → σ}

theorem namesIn_append (first second : List (String × Doc)) :
    schema.namesIn (first ++ second) = schema.namesIn first ++ schema.namesIn second :=
  List.filterMap_append

theorem namesIn_of_skips {members : List (String × Doc)}
    (skipped : ∀ member ∈ members, schema.Skips member) : schema.namesIn members = [] := by
  refine List.filterMap_eq_nil_iff.mpr fun member inside => ?_
  rw [(skipped member inside).unknown, Option.map_none]

theorem namesIn_cons_of_skips {member : String × Doc} (skips : schema.Skips member)
    (rest : List (String × Doc)) : schema.namesIn (member :: rest) = schema.namesIn rest :=
  List.filterMap_cons_none (by rw [skips.unknown, Option.map_none])

theorem namesIn_cons_of_some {member : String × Doc} {field : RecordField σ}
    (known : schema.fieldOf? member.1 = some field) (rest : List (String × Doc)) :
    schema.namesIn (member :: rest) = field.name :: schema.namesIn rest :=
  List.filterMap_cons_some (by rw [known, Option.map_some])

/-! ## The steps of a reader of members -/

theorem readMembers_of_skips {member : String × Doc} (skips : schema.Skips member)
    (rest : List (Offer String × Doc)) (seen : List String) (record : σ) :
    schema.readMembers (Doc.named member :: rest) seen record =
      schema.readMembers rest seen record := by
  have unknown : schema.fields.find? (·.matchesKey member.1) = none := skips.unknown
  simp only [Doc.named, readMembers, bind, Except.bind, unknown, skips.whole, Reader.require]

theorem readMembers_of_carries {member : String × Doc} {field : RecordField σ}
    (known : schema.fieldOf? member.1 = some field) (carries : field.Carries taken member.2)
    (rest : List (Offer String × Doc)) {seen : List String} (fresh : field.name ∉ seen)
    (names : String → Bool) :
    schema.readMembers (Doc.named member :: rest) seen (taken names) =
      schema.readMembers rest (field.name :: seen)
        (taken (Function.update names field.name true)) := by
  have found : schema.fields.find? (·.matchesKey member.1) = some field := known
  have unseen : seen.contains field.name = false := by simpa using fresh
  simp only [Doc.named, readMembers, bind, Except.bind, found, unseen, Bool.false_eq_true, if_false,
    carries names]

/-! ## All members -/

theorem update_contains (seen : List String) (name : String) :
    Function.update seen.contains name true = (name :: seen).contains := by
  funext other
  by_cases same : other = name
  · rw [same, Function.update_self]
    simp
  · rw [Function.update_of_ne same]
    simp [same]

/-- The parts that have been read are those whose names have been met. -/
theorem readMembers_named {members : List (String × Doc)}
    (each : ∀ member ∈ members, schema.Takes taken member ∨ schema.Skips member)
    (once : (schema.namesIn members).Nodup) (seen : List String)
    (fresh : ∀ name ∈ schema.namesIn members, name ∉ seen) :
    schema.readMembers (members.map Doc.named) seen (taken seen.contains) =
      .ok ((schema.namesIn members).reverse ++ seen,
        taken ((schema.namesIn members).reverse ++ seen).contains) := by
  induction members generalizing seen with
  | nil => rfl
  | cons member rest ih =>
      obtain ⟨first, others⟩ := List.forall_mem_cons.mp each
      rw [List.map_cons]
      rcases first with ⟨field, known, carries⟩ | skips
      · rw [namesIn_cons_of_some known] at once fresh ⊢
        obtain ⟨alone, onceMore⟩ := List.nodup_cons.mp once
        obtain ⟨unseen, freshMore⟩ := List.forall_mem_cons.mp fresh
        have freshStill : ∀ name ∈ schema.namesIn rest, name ∉ field.name :: seen := by
          intro name inside
          have other : name ≠ field.name := fun same => alone (same ▸ inside)
          exact List.not_mem_cons_of_ne_of_not_mem other (freshMore name inside)
        rw [readMembers_of_carries known carries _ unseen, update_contains,
          ih others onceMore _ freshStill, List.reverse_cons, List.append_assoc,
          List.singleton_append]
      · rw [namesIn_cons_of_skips skips] at once fresh ⊢
        rw [readMembers_of_skips skips, ih others once seen fresh]

/-- **A record is read from the names that are met, in whatever order.** Members that it does
not know may stand anywhere between them. -/
theorem reader_ofMembers {members shown foreign : List (String × Doc)}
    (order : members.Perm (shown ++ foreign))
    (takes : ∀ member ∈ shown, schema.Takes taken member)
    (skips : ∀ member ∈ foreign, schema.Skips member)
    (once : (schema.namesIn shown).Nodup)
    (complete : ∀ field ∈ schema.fields, field.isRequired = true →
      field.name ∈ schema.namesIn shown) :
    schema.reader (taken fun _ => false) (.ofMembers members) =
      .ok (taken (schema.namesIn shown).contains) := by
  have each : ∀ member ∈ members, schema.Takes taken member ∨ schema.Skips member := by
    intro member inside
    rcases List.mem_append.mp (order.mem_iff.mp inside) with known | unknown
    · exact .inl (takes member known)
    · exact .inr (skips member unknown)
  have names : (schema.namesIn members).Perm (schema.namesIn shown) := by
    have mapped : (schema.namesIn members).Perm (schema.namesIn (shown ++ foreign)) :=
      order.filterMap _
    rwa [namesIn_append, namesIn_of_skips skips, List.append_nil] at mapped
  have read := readMembers_named each (names.nodup_iff.mpr once) [] fun _ _ => List.not_mem_nil
  have met : ((schema.namesIn members).reverse ++ []).contains =
      (schema.namesIn shown).contains := by
    funext name
    rw [List.append_nil]
    exact Bool.eq_iff_iff.mpr (by simp [names.mem_iff])
  have nothingMissing : schema.missing? ((schema.namesIn members).reverse ++ []) = none := by
    rw [missing?, Option.map_eq_none_iff, List.find?_eq_none]
    intro field known
    rw [met]
    by_cases required : field.isRequired = true
    · simp [complete field known required]
    · simp [required]
  have begun : (fun _ => false) = ([] : List String).contains := rfl
  rw [Doc.ofMembers, reader, begun, read]
  simp only [bind, Except.bind, ObjectEnding.typedFault?, Reader.require, nothingMissing, met]
  rfl

/-! ## Records that may leave out anything -/

/-- A member under the name of its field that carries its part. -/
def Owns (schema : Schema σ) (taken : (String → Bool) → σ) (member : String × Doc) : Prop :=
  ∃ field, schema.fieldOf? member.1 = some field ∧ field.name = member.1 ∧
    field.Carries taken member.2

theorem namesIn_of_owns {members : List (String × Doc)}
    (owns : ∀ member ∈ members, schema.Owns taken member) :
    schema.namesIn members = members.map Prod.fst := by
  induction members with
  | nil => rfl
  | cons member rest ih =>
      obtain ⟨⟨field, found, named, -⟩, others⟩ := List.forall_mem_cons.mp owns
      rw [namesIn_cons_of_some found, named, ih others, List.map_cons]

/-- A record whose fields have one name each and may all be left out. Of the names that are
taken, only those of its fields matter. -/
structure IsOptional (schema : Schema σ) (taken : (String → Bool) → σ) : Prop where
  once : (schema.fields.map (·.name)).Nodup
  plain : ∀ field ∈ schema.fields, field.aliases = [] ∧ field.isRequired = false
  congr : ∀ first second : String → Bool,
    (∀ name ∈ schema.fields.map (·.name), first name = second name) → taken first = taken second

/-- **Of such a record exactly the members that are kept are taken.** -/
theorem IsOptional.reader_ofMembers (isOptional : schema.IsOptional taken) {kept : String → Bool}
    {members shown foreign : List (String × Doc)} (order : members.Perm (shown ++ foreign))
    (owns : ∀ member ∈ shown, schema.Owns taken member)
    (keys : shown.map Prod.fst = (schema.fields.map (·.name)).filter kept)
    (unknown : ∀ member ∈ foreign, member.1 ∉ schema.fields.map (·.name))
    (whole : ∀ member ∈ members, member.2.torn? = none) :
    schema.reader (taken fun _ => false) (.ofMembers members) = .ok (taken kept) := by
  have names : schema.namesIn shown = (schema.fields.map (·.name)).filter kept :=
    (namesIn_of_owns owns).trans keys
  have takes : ∀ member ∈ shown, schema.Takes taken member := by
    intro member inside
    obtain ⟨field, found, -, carries⟩ := owns member inside
    exact ⟨field, found, carries⟩
  have skips : ∀ member ∈ foreign, schema.Skips member := by
    intro member inside
    refine ⟨List.find?_eq_none.mpr fun field known matched => unknown member inside ?_,
      whole member (order.mem_iff.mpr (List.mem_append_right shown inside))⟩
    have same : field.name = member.1 := by
      simpa [RecordField.matchesKey, (isOptional.plain field known).1] using matched
    exact same ▸ List.mem_map_of_mem known
  have once : (schema.namesIn shown).Nodup := by
    rw [names]
    exact isOptional.once.filter _
  have complete : ∀ field ∈ schema.fields, field.isRequired = true →
      field.name ∈ schema.namesIn shown := by
    intro field known required
    rw [(isOptional.plain field known).2] at required
    cases required
  rw [Schema.reader_ofMembers order takes skips once complete, names]
  refine congrArg Except.ok (isOptional.congr _ _ fun name known => ?_)
  exact Bool.eq_iff_iff.mpr (by simp [List.mem_filter, known])

end Schema

/-! ## Values that were written -/

namespace Reader

theorem bool_doc (value : Bool) : bool (Value.bool value).doc = .ok value := rfl

theorem string_doc (text : String) : string (Value.string text).doc = .ok text := rfl

theorem integer_doc {lower upper value : Int} (least : lower ≤ value) (greatest : value ≤ upper)
    (wanted : String) : integer lower upper wanted (Value.integer value).doc = .ok value := by
  by_cases negative : value < 0
  · simp [Value.doc, integer, bind, Except.bind, negative, least, greatest]
  · have same : (value.toNat : Int) = value := Int.toNat_of_nonneg (Int.not_lt.mp negative)
    simp [Value.doc, integer, bind, Except.bind, negative, same, least, greatest]

theorem natural_doc {value greatest : Nat} (fits : value ≤ greatest) (wanted : String) :
    natural greatest wanted (Value.natural value).doc = .ok value := by
  have read := integer_doc (Int.natCast_nonneg value) (Int.ofNat_le.mpr fits) wanted
  rw [natural, Value.natural, read]
  rfl

theorem word64_doc {value : Nat} (inRange : value ≤ Numeral.maxWord) :
    word64 (Value.natural value).doc = .ok value := natural_doc inRange "u64"

/-- A value that may be absent is told from null. -/
theorem optional_doc {α : Type} {reader : Reader α} {write : α → Value} {value : Option α}
    (reads : ∀ present ∈ value, reader (write present).doc = .ok present)
    (present : ∀ present ∈ value, (write present).doc ≠ .null) :
    optional reader (Value.optional write value).doc = .ok value := by
  cases value with
  | none => rfl
  | some value =>
      have read := reads value rfl
      rw [Value.optional, optional, read]
      · rfl
      · exact present value rfl

end Reader

/-! ## Values that are only kept -/

/-- A value that a reader accepts who keeps it for later: its numbers and strings can be read,
and containers are nested at most as deep as the depth. -/
inductive Doc.Accepted : (depth : Nat) → Doc → Prop
  | null {depth : Nat} : Accepted depth null
  | bool {depth : Nat} (value : Bool) : Accepted depth (bool value)
  | number {depth : Nat} {offer : Offer Number} {value : Number} (read : offer.typed = .ok value) :
      Accepted depth (number offer)
  | string {depth : Nat} {offer : Offer String} {text : String} (read : offer.typed = .ok text) :
      Accepted depth (string offer)
  | list {depth : Nat} {items : List Doc} (each : ∀ item ∈ items, Accepted depth item) :
      Accepted (depth + 1) (list items .closed)
  | object {depth : Nat} {members : List (Offer String × Doc)}
      (keys : ∀ member ∈ members, ∃ key, member.1.typed = .ok key)
      (each : ∀ member ∈ members, Accepted depth member.2) :
      Accepted (depth + 1) (object members .closed)

namespace Reader

theorem firstItemFault?_eq_none {allowance : Nat} {items : List Doc}
    (each : ∀ item ∈ items, firstFault? allowance item = none) :
    firstItemFault? allowance none items = none := by
  induction items with
  | nil => rw [firstItemFault?]
  | cons item rest ih =>
      obtain ⟨first, others⟩ := List.forall_mem_cons.mp each
      rw [firstItemFault?, first]
      exact ih others

theorem firstMemberFault?_eq_none {allowance : Nat} {members : List (Offer String × Doc)}
    (keys : ∀ member ∈ members, ∃ key, member.1.typed = .ok key)
    (each : ∀ member ∈ members, firstFault? allowance member.2 = none) :
    firstMemberFault? allowance none members = none := by
  induction members with
  | nil => rw [firstMemberFault?]
  | cons member rest ih =>
      obtain ⟨first, others⟩ := List.forall_mem_cons.mp each
      obtain ⟨⟨key, typed⟩, otherKeys⟩ := List.forall_mem_cons.mp keys
      have faultless : firstFaultInMember? allowance member = none := by
        rw [firstFaultInMember?, typed]
        exact first
      rw [firstMemberFault?, faultless]
      exact ih otherKeys others

theorem firstFault?_of_accepted {depth : Nat} {doc : Doc} (accepted : doc.Accepted depth) :
    firstFault? depth doc = none := by
  induction accepted with
  | null => rw [firstFault?]
  | bool value => rw [firstFault?]
  | number read => rw [firstFault?, read, fault?]
  | string read => rw [firstFault?, read, fault?]
  | list _ each =>
      rw [firstFault?]
      exact firstItemFault?_eq_none each
  | object keys _ each =>
      rw [firstFault?]
      exact firstMemberFault?_eq_none keys each

end Reader

end LedMatrix.Json
