/-
# Commands as texts

A command is read from every text that presents it, and the line that is written for it is one
of them (`Command.ofLine_of_presented`). A text presents a command if it is an object with its
name and its arguments, in any order and with any blanks; a mirror may be called by its other
name, what has its default may be left out, and members that the command does not know may
stand between the others, as long as a reader accepts them as JSON.

Two readers go over such an object. The first looks for the name and keeps the rest, and the
second reads the arguments from what was kept; neither minds the order.
-/

import LedMatrix.Proofs.Json.Reading
import LedMatrix.Proofs.Written.Basic
import LedMatrix.Written.Command

namespace LedMatrix

open LedMatrix.Json

/-! ## Arguments -/

namespace Arguments

/-- Every number has the width of its kind. -/
structure Fits (a : Arguments) : Prop where
  x : IsSigned32 a.x
  y : IsSigned32 a.y
  number : a.number ≤ Numeral.maxWord
  degree : IsSigned32 a.degree

/-- The arguments with the given names; the others are the defaults. -/
def keeping (a : Arguments) (names : String → Bool) : Arguments where
  x := if names "x" then a.x else 0
  y := if names "y" then a.y else 0
  text := if names "text" then a.text else ""
  number := if names "number" then a.number else 0
  color := if names "color" then a.color else .black
  background := if names "background" then a.background else none
  degree := if names "degree" then a.degree else 0
  flipX := if names "flip_x" then a.flipX else false
  flipY := if names "flip_y" then a.flipY else false
  enabled := if names "enabled" then a.enabled else false

end Arguments

/-- Every number of a command has the width of its kind. -/
def Command.Fits (command : Command) : Prop := command.arguments.Fits

namespace Written

namespace Argument

variable {a : Arguments}

theorem carries_x (fits : a.Fits) : x.Carries a.keeping (Value.integer a.x).doc :=
  RecordField.carries_with (signed32_doc fits.x) fun names => by simp [Arguments.keeping]

theorem carries_y (fits : a.Fits) : y.Carries a.keeping (Value.integer a.y).doc :=
  RecordField.carries_with (signed32_doc fits.y) fun names => by simp [Arguments.keeping]

theorem carries_text : text.Carries a.keeping (Value.string a.text).doc :=
  RecordField.carries_with (Reader.string_doc a.text) fun names => by simp [Arguments.keeping]

theorem carries_number (fits : a.Fits) :
    number.Carries a.keeping (Value.natural a.number).doc :=
  RecordField.carries_with (Reader.word64_doc fits.number) fun names => by
    simp [Arguments.keeping]

theorem carries_color : color.Carries a.keeping (writeColor a.color).doc :=
  RecordField.carries_with (readColor_doc a.color) fun names => by simp [Arguments.keeping]

theorem carries_background :
    background.Carries a.keeping (Value.optional writeColor a.background).doc :=
  RecordField.carries_into (Reader.optional_doc (fun color _ => readColor_doc color) nofun)
    fun names => by simp [Arguments.keeping]

theorem carries_degree (fits : a.Fits) :
    degree.Carries a.keeping (Value.integer a.degree).doc :=
  RecordField.carries_with (signed32_doc fits.degree) fun names => by simp [Arguments.keeping]

theorem carries_flipX : flipX.Carries a.keeping (Value.bool a.flipX).doc :=
  RecordField.carries_with (Reader.bool_doc a.flipX) fun names => by simp [Arguments.keeping]

theorem carries_flipY : flipY.Carries a.keeping (Value.bool a.flipY).doc :=
  RecordField.carries_with (Reader.bool_doc a.flipY) fun names => by simp [Arguments.keeping]

theorem carries_enabled : enabled.Carries a.keeping (Value.bool a.enabled).doc :=
  RecordField.carries_with (Reader.bool_doc a.enabled) fun names => by simp [Arguments.keeping]

end Argument

/-- A written argument stands under the name of its field. -/
theorem owns_argument {command : Command} (fits : command.Fits) :
    ∀ argument ∈ writeArguments command, (argumentSchema command.name).Owns
      command.arguments.keeping (argument.1, argument.2.doc) := by
  cases command with
  | render | clear | width | height => exact nofun
  | drawPixel x y color =>
      simp only [writeArguments, List.forall_mem_cons]
      exact ⟨⟨_, rfl, rfl, Argument.carries_x fits⟩, ⟨_, rfl, rfl, Argument.carries_y fits⟩,
        ⟨_, rfl, rfl, Argument.carries_color⟩, nofun⟩
  | drawText x y text color background =>
      simp only [writeArguments, List.forall_mem_cons]
      exact ⟨⟨_, rfl, rfl, Argument.carries_x fits⟩, ⟨_, rfl, rfl, Argument.carries_y fits⟩,
        ⟨_, rfl, rfl, Argument.carries_text⟩, ⟨_, rfl, rfl, Argument.carries_color⟩,
        ⟨_, rfl, rfl, Argument.carries_background⟩, nofun⟩
  | drawNumber x y number color =>
      simp only [writeArguments, List.forall_mem_cons]
      exact ⟨⟨_, rfl, rfl, Argument.carries_x fits⟩, ⟨_, rfl, rfl, Argument.carries_y fits⟩,
        ⟨_, rfl, rfl, Argument.carries_number fits⟩, ⟨_, rfl, rfl, Argument.carries_color⟩, nofun⟩
  | pixel x y =>
      simp only [writeArguments, List.forall_mem_cons]
      exact ⟨⟨_, rfl, rfl, Argument.carries_x fits⟩, ⟨_, rfl, rfl, Argument.carries_y fits⟩, nofun⟩
  | setRotate degree flipX flipY =>
      simp only [writeArguments, List.forall_mem_cons]
      exact ⟨⟨_, rfl, rfl, Argument.carries_degree fits⟩, ⟨_, rfl, rfl, Argument.carries_flipX⟩,
        ⟨_, rfl, rfl, Argument.carries_flipY⟩, nofun⟩
  | setTransparent enabled | setAutoRender enabled =>
      simp only [writeArguments, List.forall_mem_cons]
      exact ⟨⟨_, rfl, rfl, Argument.carries_enabled⟩, nofun⟩
  | setBackground color =>
      simp only [writeArguments, List.forall_mem_cons]
      exact ⟨⟨_, rfl, rfl, Argument.carries_color⟩, nofun⟩

/-! ## Presentations -/

/-- The other name of a mirror. -/
def otherName? : String → Option String
  | "flip_x" => some "flipX"
  | "flip_y" => some "flipY"
  | _ => none

/-- A key under which an argument may stand. -/
def IsNameOf (key name : String) : Prop := key = name ∨ otherName? name = some key

/-- An argument that has its default and need not be written. -/
def IsDefault (argument : String × Value) : Prop :=
  argument = ("flip_x", .bool false) ∨ argument = ("flip_y", .bool false) ∨
    argument = ("background", .null)

/-- Arguments as they may be given: each under one of its names, and none, some or all of those
that have their defaults left out. -/
inductive Given : List (String × Value) → List (String × Doc) → Prop
  | nil : Given [] []
  | given {key name : String} {value : Value} {rest : List (String × Value)}
      {shown : List (String × Doc)} (isName : IsNameOf key name) (more : Given rest shown) :
      Given ((name, value) :: rest) ((key, value.doc) :: shown)
  | leftOut {argument : String × Value} {rest : List (String × Value)}
      {shown : List (String × Doc)} (isDefault : IsDefault argument) (more : Given rest shown) :
      Given (argument :: rest) shown

/-- A member that a command does not know, with a value that is accepted where it stands. -/
structure IsForeign (command : Command) (member : String × Doc) : Prop where
  notName : member.1 ≠ "cmd"
  notArgument : ∀ argument ∈ writeArguments command, ¬ IsNameOf member.1 argument.1
  accepted : member.2.Accepted (maxDepth - 1)

/-- The members of an object that presents the command. -/
def Presents (command : Command) (members : List (String × Doc)) : Prop :=
  ∃ shown foreign, Given (writeArguments command) shown ∧
    (∀ member ∈ foreign, IsForeign command member) ∧
    members.Perm (("cmd", (Value.string command.name.written).doc) :: (shown ++ foreign))

/-- Arguments as they are written. -/
theorem given_written (arguments : List (String × Value)) :
    Given arguments (arguments.map Value.memberDoc) := by
  induction arguments with
  | nil => exact .nil
  | cons argument rest ih =>
      obtain ⟨name, value⟩ := argument
      exact .given (.inl rfl) ih

/-- A command as it is written. -/
theorem presents_written (command : Command) :
    Presents command
      ((("cmd", .string command.name.written) :: writeArguments command).map Value.memberDoc) := by
  refine ⟨(writeArguments command).map Value.memberDoc, [], given_written _, nofun, ?_⟩
  rw [List.append_nil]
  exact .refl _

/-! ## The arguments that are met -/

section Given

variable {command : Command} {arguments : List (String × Value)} {shown : List (String × Doc)}

/-- Both names of a mirror belong to the same field. -/
theorem fieldOf?_of_isNameOf {key name : String} (isName : IsNameOf key name) {value : Value}
    (known : (name, value) ∈ writeArguments command) :
    (argumentSchema command.name).fieldOf? key = (argumentSchema command.name).fieldOf? name := by
  rcases isName with rfl | isOther
  · rfl
  · have mirror : (name = "flip_x" ∧ key = "flipX") ∨ (name = "flip_y" ∧ key = "flipY") := by
      unfold otherName? at isOther
      split at isOther
      · exact .inl ⟨rfl, (Option.some.inj isOther).symm⟩
      · exact .inr ⟨rfl, (Option.some.inj isOther).symm⟩
      · cases isOther
    cases command with
    | setRotate => rcases mirror with ⟨rfl, rfl⟩ | ⟨rfl, rfl⟩ <;> rfl
    | _ => rcases mirror with ⟨rfl, rfl⟩ | ⟨rfl, rfl⟩ <;> simp [writeArguments] at known

/-- Whatever is given is an argument under one of its names. -/
theorem Given.exists_argument (given : Given arguments shown) :
    ∀ member ∈ shown, ∃ argument ∈ arguments, member.2 = argument.2.doc ∧
      IsNameOf member.1 argument.1 := by
  have later {first : String × Value} {rest : List (String × Value)} {member : String × Doc}
      (earlier : ∃ argument ∈ rest, member.2 = argument.2.doc ∧ IsNameOf member.1 argument.1) :
      ∃ argument ∈ first :: rest, member.2 = argument.2.doc ∧ IsNameOf member.1 argument.1 := by
    obtain ⟨argument, inside, same⟩ := earlier
    exact ⟨argument, List.mem_cons_of_mem first inside, same⟩
  induction given with
  | nil => exact nofun
  | given isName _ ih =>
      exact List.forall_mem_cons.mpr ⟨⟨_, List.mem_cons_self, rfl, isName⟩,
        fun member inside => later (ih member inside)⟩
  | leftOut _ _ ih => exact fun member inside => later (ih member inside)

/-- What is given of the arguments of a command carries their parts. -/
theorem Given.takes (fits : command.Fits) (given : Given (writeArguments command) shown) :
    ∀ member ∈ shown, (argumentSchema command.name).Takes command.arguments.keeping member := by
  intro member inside
  obtain ⟨argument, written, content, isName⟩ := given.exists_argument member inside
  obtain ⟨field, found, -, carries⟩ := owns_argument fits argument written
  exact ⟨field, (fieldOf?_of_isNameOf isName written).trans found, content ▸ carries⟩

variable (fits : command.Fits) (known : arguments ⊆ writeArguments command)

include fits known in
/-- The names are met in the order in which they are given, and none is met twice. -/
theorem Given.sublist (given : Given arguments shown) :
    ((argumentSchema command.name).namesIn shown).Sublist (arguments.map Prod.fst) := by
  induction given with
  | nil => exact .refl _
  | given isName _ ih =>
      obtain ⟨inside, others⟩ := List.cons_subset.mp known
      obtain ⟨field, found, named, -⟩ := owns_argument fits _ inside
      rw [Schema.namesIn_cons_of_some ((fieldOf?_of_isNameOf isName inside).trans found), named]
      exact (ih others).cons_cons _
  | leftOut _ _ ih => exact (ih (List.cons_subset.mp known).2).cons _

include fits known in
/-- A name that is not met is that of a default. -/
theorem Given.met_or_isDefault (given : Given arguments shown) :
    ∀ argument ∈ arguments,
      argument.1 ∈ (argumentSchema command.name).namesIn shown ∨ IsDefault argument := by
  induction given with
  | nil => exact nofun
  | given isName _ ih =>
      obtain ⟨inside, others⟩ := List.cons_subset.mp known
      obtain ⟨field, found, named, -⟩ := owns_argument fits _ inside
      rw [Schema.namesIn_cons_of_some ((fieldOf?_of_isNameOf isName inside).trans found), named]
      exact List.forall_mem_cons.mpr ⟨.inl List.mem_cons_self, fun argument inside =>
        (ih others argument inside).imp_left (List.mem_cons_of_mem _)⟩
  | leftOut isDefault _ ih =>
      exact List.forall_mem_cons.mpr ⟨.inr isDefault, ih (List.cons_subset.mp known).2⟩

end Given

theorem names_arguments (command : Command) :
    (argumentFields command.name).map (·.name) = (writeArguments command).map Prod.fst := by
  cases command <;> rfl

/-- Every field of a command has its argument. -/
theorem exists_argument {command : Command} {field : RecordField Arguments}
    (known : field ∈ argumentFields command.name) :
    ∃ argument ∈ writeArguments command, argument.1 = field.name := by
  have named : field.name ∈ (writeArguments command).map Prod.fst := by
    rw [← names_arguments]
    exact List.mem_map_of_mem known
  exact List.mem_map.mp named

theorem nodup_names (command : Command) : ((writeArguments command).map Prod.fst).Nodup := by
  rw [← names_arguments]
  cases command.name <;> decide

/-- What has a default is not needed. -/
theorem ne_of_isRequired {name : CommandName} {argument : String × Value}
    (isDefault : IsDefault argument) :
    ∀ field ∈ argumentFields name, field.isRequired = true → argument.1 ≠ field.name := by
  rcases isDefault with rfl | rfl | rfl <;> cases name <;> decide

/-- What is not met is left at its default, so the arguments are complete. -/
theorem keeping_eq {command : Command} {names : String → Bool}
    (met : ∀ argument ∈ writeArguments command, names argument.1 = true ∨ IsDefault argument) :
    command.arguments.keeping names = command.arguments := by
  cases command with
  | drawText x y text color background =>
      cases background with
      | none => simp_all [writeArguments, Command.arguments, Arguments.keeping, IsDefault]
      | some background =>
          simp_all [writeArguments, Command.arguments, Arguments.keeping, IsDefault,
            Value.optional, writeColor, Value.natural]
  | setRotate degree flipX flipY =>
      cases flipX <;> cases flipY <;>
        simp_all [writeArguments, Command.arguments, Arguments.keeping, IsDefault]
  | _ => simp_all [writeArguments, Command.arguments, Arguments.keeping, IsDefault]

/-! ## Reading -/

/-- The arguments are read from what is given of them. -/
theorem readNamedArguments_of_perm {command : Command} (fits : command.Fits)
    {members shown foreign : List (String × Doc)} (given : Given (writeArguments command) shown)
    (skips : ∀ member ∈ foreign, (argumentSchema command.name).Skips member)
    (order : members.Perm (shown ++ foreign)) :
    readNamedArguments command.name (members.map Doc.named) = .ok command := by
  let schema := argumentSchema command.name
  have met := given.met_or_isDefault fits (List.Subset.refl _)
  have complete : ∀ field ∈ schema.fields, field.isRequired = true →
      field.name ∈ schema.namesIn shown := by
    intro field inside required
    obtain ⟨argument, written, same⟩ := exists_argument inside
    rcases met argument written with found | isDefault
    · exact same ▸ found
    · exact absurd same (ne_of_isRequired isDefault field inside required)
  have read := Schema.reader_ofMembers order (given.takes fits) skips
    ((nodup_names command).sublist (given.sublist fits (List.Subset.refl _))) complete
  have kept : command.arguments.keeping (schema.namesIn shown).contains = command.arguments := by
    refine keeping_eq fun argument inside => (met argument inside).imp_left fun found => ?_
    exact List.contains_iff_mem.mpr found
  have begun : command.arguments.keeping (fun _ => false) = {} := rfl
  rw [kept, begun] at read
  change (schema.reader {} (.ofMembers members)).map command.name.build = _
  rw [read, Except.map, Command.build_name_arguments]

/-- Members that are kept for later are passed over. -/
theorem scanMembers_append {passed : List (String × Doc)}
    (each : ∀ member ∈ passed, member.1 ≠ "cmd" ∧ member.2.Accepted (maxDepth - 1))
    (name? : Option CommandName) (kept rest : List (Offer String × Doc)) :
    scanMembers name? kept (passed.map Doc.named ++ rest) =
      scanMembers name? ((passed.map Doc.named).reverse ++ kept) rest := by
  induction passed generalizing kept with
  | nil => rfl
  | cons member more ih =>
      obtain ⟨⟨noName, accepted⟩, others⟩ := List.forall_mem_cons.mp each
      have faultless := Reader.firstFault?_of_accepted accepted
      rw [List.map_cons, List.cons_append, List.reverse_cons, List.append_assoc]
      simp only [Doc.named, scanMembers, bind, Except.bind, noName, if_false, faultless,
        Reader.require]
      exact ih others _

theorem readCommandName_written (name : CommandName) :
    readCommandName (Value.string name.written).doc = .ok name := by
  cases name <;> rfl

/-- The name is taken where it stands, and nothing else is lost. -/
theorem scanMembers_named {first second : List (String × Doc)}
    (each : ∀ member ∈ first ++ second, member.1 ≠ "cmd" ∧ member.2.Accepted (maxDepth - 1))
    (name : CommandName) :
    scanMembers none []
        ((first ++ ("cmd", (Value.string name.written).doc) :: second).map Doc.named) =
      .ok (some name, ((first ++ second).map Doc.named).reverse) := by
  obtain ⟨before, behind⟩ := List.forall_mem_append.mp each
  have rest := scanMembers_append behind (some name) ((first.map Doc.named).reverse) []
  rw [List.append_nil] at rest
  rw [List.map_append, scanMembers_append before, List.append_nil, List.map_cons]
  simp only [Doc.named, scanMembers, bind, Except.bind, if_true, readCommandName_written,
    Option.isSome_none, Bool.false_eq_true, if_false]
  refine rest.trans ?_
  rw [List.map_append, List.reverse_append, scanMembers]

theorem accepted_argument (command : Command) (depth : Nat) :
    ∀ argument ∈ writeArguments command,
      argument.1 ≠ "cmd" ∧ argument.2.doc.Accepted depth := by
  have integer (value : Int) : (Value.integer value).doc.Accepted depth := .number rfl
  have text (text : String) : (Value.string text).doc.Accepted depth := .string rfl
  have truth (value : Bool) : (Value.bool value).doc.Accepted depth := .bool value
  have background (color : Option Color) :
      (Value.optional writeColor color).doc.Accepted depth := by
    cases color with
    | none => exact .null
    | some color => exact integer color.toNat
  cases command <;>
    simp [writeArguments, writeColor, Value.natural, integer, text, truth, background]

theorem ne_cmd_of_otherName {key name : String} (isOther : otherName? name = some key) :
    key ≠ "cmd" := by
  rintro rfl
  unfold otherName? at isOther
  split at isOther <;> simp at isOther

/-- What a command does not know it skips. -/
theorem IsForeign.skips {command : Command} {member : String × Doc}
    (foreign : IsForeign command member) (whole : member.2.torn? = none) :
    (argumentSchema command.name).Skips member := by
  have names : ∀ name : CommandName, ∀ field ∈ argumentFields name,
      field.aliases = (otherName? field.name).toList := by
    intro name
    cases name <;> decide
  refine ⟨List.find?_eq_none.mpr fun field inside matched => ?_, whole⟩
  obtain ⟨argument, written, same⟩ := exists_argument inside
  simp only [RecordField.matchesKey, names command.name field inside, ← same, Bool.or_eq_true,
    decide_eq_true_eq, List.contains_iff_mem, Option.mem_toList] at matched
  exact foreign.notArgument argument written (matched.imp_left Eq.symm)

/-- A command is read from every object that presents it. -/
theorem readCommand_of_presents {command : Command} (fits : command.Fits)
    {members : List (String × Doc)} (presents : Presents command members)
    (whole : ∀ member ∈ members, member.2.torn? = none) :
    readCommand (.ofMembers members) = .ok command := by
  obtain ⟨shown, foreign, given, strange, order⟩ := presents
  obtain ⟨first, second, rfl⟩ := List.append_of_mem (order.mem_iff.mpr List.mem_cons_self)
  have rest : (first ++ second).Perm (shown ++ foreign) :=
    (List.perm_middle.symm.trans order).cons_inv
  have plain : ∀ member ∈ first ++ second,
      member.1 ≠ "cmd" ∧ member.2.Accepted (maxDepth - 1) := by
    intro member inside
    rcases List.mem_append.mp (rest.mem_iff.mp inside) with shownOne | foreignOne
    · obtain ⟨argument, written, content, isName⟩ := given.exists_argument member shownOne
      obtain ⟨noName, accepted⟩ := accepted_argument command (maxDepth - 1) argument written
      refine ⟨?_, content ▸ accepted⟩
      rcases isName with same | isOther
      · exact same ▸ noName
      · exact ne_cmd_of_otherName isOther
    · exact ⟨(strange member foreignOne).notName, (strange member foreignOne).accepted⟩
  have skips : ∀ member ∈ foreign, (argumentSchema command.name).Skips member := by
    intro member inside
    have known : member ∈ first ++ second := rest.mem_iff.mpr (List.mem_append_right shown inside)
    refine (strange member inside).skips (whole member ?_)
    exact List.perm_middle.mem_iff.mpr (List.mem_cons_of_mem _ known)
  have scanned := scanMembers_named plain command.name
  have read := readNamedArguments_of_perm fits given skips rest
  rw [Doc.ofMembers, readCommand, scanned]
  simp only [bind, Except.bind, ObjectEnding.typedFault?, Reader.require, List.reverse_reverse]
  exact read

theorem fits_arguments {command : Command} (fits : command.Fits) :
    ∀ argument ∈ writeArguments command, argument.2.Fits := by
  have background (paper : Option Color) : (Value.optional writeColor paper).Fits :=
    fits_optional fun color _ => fits_writeColor color
  cases command with
  | render | clear | width | height => exact nofun
  | drawPixel x y ink =>
      simpa [writeArguments] using ⟨fits_integer fits.x, fits_integer fits.y, fits_writeColor ink⟩
  | drawText x y text ink paper =>
      simpa [writeArguments] using
        ⟨fits_integer fits.x, fits_integer fits.y, Value.Fits.string text, fits_writeColor ink,
          background paper⟩
  | drawNumber x y value ink =>
      simpa [writeArguments] using
        ⟨fits_integer fits.x, fits_integer fits.y, fits_natural fits.number, fits_writeColor ink⟩
  | pixel x y => simpa [writeArguments] using ⟨fits_integer fits.x, fits_integer fits.y⟩
  | setRotate degree flipX flipY =>
      simpa [writeArguments] using
        ⟨fits_integer fits.degree, Value.Fits.bool flipX, Value.Fits.bool flipY⟩
  | setTransparent enabled | setAutoRender enabled =>
      simpa [writeArguments] using Value.Fits.bool enabled
  | setBackground paper => simpa [writeArguments] using fits_writeColor paper

end Written

namespace Command

open Written

/-- **A command comes back from its line and from every text that presents it.** -/
theorem ofLine_of_presented (command : Command) (fits : command.Fits) :
    ofLine command.toLine = .ok command ∧
      ∀ (members : List (String × Doc)) (line : String), Presents command members →
        (Doc.ofMembers members).IsTextOf line → ofLine line = .ok command := by
  have presented : ∀ (members : List (String × Doc)) (line : String), Presents command members →
      (Doc.ofMembers members).IsTextOf line → ofLine line = .ok command := by
    intro members line presents written
    obtain ⟨body, spells⟩ := written.exists_spells
    exact decode_of_isTextOf (readCommand_of_presents fits presents spells.whole) written
  refine ⟨presented _ _ (presents_written command) ?_, presented⟩
  have whole : (writeCommand command).Fits :=
    .object (List.forall_mem_cons.mpr ⟨.string _, fits_arguments fits⟩)
  have written := whole.isTextOf_render
  rw [writeCommand, Value.doc_object] at written
  exact written

/-- A turn whose name comes last, with a mirror under its other name, another one left out and
a note that nobody reads. -/
theorem ofLine_of_presented_turn :
    ofLine (setRotate 90 true false).toLine = .ok (setRotate 90 true false) ∧
      ofLine "\x7b\"note\":[null],\"flipX\":true,\"degree\":90,\"cmd\":\"set_rotate\"\x7d" =
        .ok (setRotate 90 true false) := by
  have fits : (setRotate 90 true false).Fits :=
    ⟨⟨by decide, by decide⟩, ⟨by decide, by decide⟩, by decide, ⟨by decide, by decide⟩⟩
  obtain ⟨back, presented⟩ := ofLine_of_presented (setRotate 90 true false) fits
  refine ⟨back, presented
    [("note", .list [.null] .closed), ("flipX", .bool true), ("degree", (Value.integer 90).doc),
      ("cmd", (Value.string "set_rotate").doc)] _ ?_ ?_⟩
  · refine ⟨[("degree", (Value.integer 90).doc), ("flipX", .bool true)],
      [("note", .list [.null] .closed)], ?_, ?_, ?_⟩
    · exact .given (.inl rfl) (.given (.inr rfl) (.leftOut (.inr (.inl rfl)) .nil))
    · intro member inside
      obtain rfl := List.mem_singleton.mp inside
      refine ⟨by decide, ?_, ?_⟩
      · simp [writeArguments, IsNameOf, otherName?]
      · exact .list (by simpa using .null)
    · exact List.reverse_perm [("cmd", (Value.string "set_rotate").doc),
        ("degree", (Value.integer 90).doc), ("flipX", .bool true), ("note", .list [.null] .closed)]
  · have note : (Value.list [.null]).Fits := .list (by simpa using .null)
    have degree : (Value.integer 90).Fits := .integer (by decide) (by decide)
    have fitting : (Value.object [("note", .list [.null]), ("flipX", .bool true),
        ("degree", .integer 90), ("cmd", .string "set_rotate")]).Fits :=
      .object (by simpa using ⟨note, Value.Fits.bool true, degree, Value.Fits.string "set_rotate"⟩)
    exact fitting.isTextOf_render

end Command

end LedMatrix
