/-
# Partial configurations

A configuration that was written can be cut down and is still read: whatever is kept keeps its
value, and everything else takes its default (`Config.parse_of_isExcerpt`). A section that is
left out takes the defaults of all its members, and a member that is left out of a section takes
its own; no default comes from another level. Members may change places, and members that
nobody knows may be added, in the object itself as well as in its sections.

Every section is a record that may leave out anything, and so is the whole, so one theorem about
such records serves all five readers.
-/

import LedMatrix.Proofs.Json.Reading
import LedMatrix.Proofs.Written.Basic
import LedMatrix.Written.Config

namespace LedMatrix

open LedMatrix.Json LedMatrix.Written

/-! ## What is kept -/

/-- The section with some of its members; the others have their defaults. -/
def StripConfig.keeping (strip : StripConfig) (kept : String → Bool) : StripConfig :=
  let start : StripConfig := {}
  { width := if kept "width" then strip.width else start.width
    height := if kept "height" then strip.height else start.height
    dma := if kept "dma" then strip.dma else start.dma
    gpio := if kept "gpio" then strip.gpio else start.gpio
    brightness := if kept "brightness" then strip.brightness else start.brightness
    stripType := if kept "strip_type" then strip.stripType else start.stripType
    frequency := if kept "frequency" then strip.frequency else start.frequency
    invert := if kept "invert" then strip.invert else start.invert }

/-- The section with some of its members; the others have their defaults. -/
def DisplayConfig.keeping (display : DisplayConfig) (kept : String → Bool) : DisplayConfig :=
  let start : DisplayConfig := {}
  { rotation := if kept "rotation" then display.rotation else start.rotation
    flipX := if kept "flip_x" then display.flipX else start.flipX
    flipY := if kept "flip_y" then display.flipY else start.flipY
    background := if kept "background" then display.background else start.background
    transparent := if kept "transparent" then display.transparent else start.transparent }

/-- The section with some of its members; the others have their defaults. -/
def ServerConfig.keeping (server : ServerConfig) (kept : String → Bool) : ServerConfig :=
  let start : ServerConfig := {}
  { bind := if kept "bind" then server.bind else start.bind
    autoRenderInterval :=
      if kept "auto_render_interval_ms" then server.autoRenderInterval
      else start.autoRenderInterval
    autoRender := if kept "auto_render" then server.autoRender else start.autoRender }

/-- The section with some of its members; the others have their defaults. -/
def DemoConfig.keeping (demo : DemoConfig) (kept : String → Bool) : DemoConfig :=
  let start : DemoConfig := {}
  { frameInterval := if kept "frame_interval_ms" then demo.frameInterval else start.frameInterval
    maxFrames := if kept "max_frames" then demo.maxFrames else start.maxFrames }

/-- A choice of sections, and of members within every section. -/
structure Selection where
  sections : String → Bool
  members : (name : String) → String → Bool

namespace Config

/-- The configuration with the chosen members of the chosen sections; everything else has its
default. -/
def keeping (config : Config) (selection : Selection) : Config where
  strip := if selection.sections "strip" then
    config.strip.keeping (selection.members "strip") else {}
  display := if selection.sections "display" then
    config.display.keeping (selection.members "display") else {}
  server := if selection.sections "server" then
    config.server.keeping (selection.members "server") else {}
  demo := if selection.sections "demo" then
    config.demo.keeping (selection.members "demo") else {}

end Config

/-! ## Widths -/

structure StripConfig.Fits (strip : StripConfig) : Prop where
  width : strip.width ≤ Numeral.maxWord
  height : strip.height ≤ Numeral.maxWord
  dma : IsSigned32 strip.dma
  gpio : IsSigned32 strip.gpio
  brightness : strip.brightness ≤ 0xFF
  frequency : strip.frequency ≤ 0xFFFFFFFF

structure DemoConfig.Fits (demo : DemoConfig) : Prop where
  frameInterval : demo.frameInterval ≤ Numeral.maxWord
  maxFrames : ∀ frames ∈ demo.maxFrames, frames ≤ Numeral.maxWord

/-- Every number of a configuration has the width of its kind. -/
structure Config.Fits (config : Config) : Prop where
  strip : config.strip.Fits
  autoRenderInterval : config.server.autoRenderInterval ≤ Numeral.maxWord
  demo : config.demo.Fits

namespace Written

/-! ## Excerpts -/

/-- What may be left of a written object: the members that are kept, in any order and with
others that the object does not have. -/
def IsExcerpt (value : Value) (kept : String → Bool) (doc : Doc) : Prop :=
  ∃ members foreign, doc = .ofMembers members ∧
    (∀ member ∈ foreign, member.1 ∉ value.members.map Prod.fst) ∧
    members.Perm ((value.members.filter (kept ·.1)).map Value.memberDoc ++ foreign)

/-- What may be left of a written configuration: excerpts of the sections that are kept, in any
order and with members that are no sections. -/
def IsExcerptOfConfig (config : Config) (selection : Selection) (doc : Doc) : Prop :=
  ∃ (excerpt : String → Doc) (members foreign : List (String × Doc)), doc = .ofMembers members ∧
    (∀ written ∈ (writeConfig config).members, selection.sections written.1 = true →
      IsExcerpt written.2 (selection.members written.1) (excerpt written.1)) ∧
    (∀ member ∈ foreign, member.1 ∉ (writeConfig config).members.map Prod.fst) ∧
    members.Perm (((writeConfig config).members.filter (selection.sections ·.1)).map
      (fun written => (written.1, excerpt written.1)) ++ foreign)

/-- A record that may leave out anything is read from every excerpt of what is written. -/
theorem IsExcerpt.read {σ : Type} {schema : Schema σ} {taken : (String → Bool) → σ} {value : Value}
    {kept : String → Bool} {doc : Doc} (excerpt : IsExcerpt value kept doc)
    (isOptional : schema.IsOptional taken)
    (owns : ∀ member ∈ value.members, schema.Owns taken (member.1, member.2.doc))
    (names : schema.fields.map (·.name) = value.members.map Prod.fst)
    {text : List Char} (spells : Doc.Spells text doc) :
    schema.reader (taken fun _ => false) doc = .ok (taken kept) := by
  obtain ⟨members, foreign, rfl, unknown, order⟩ := excerpt
  refine isOptional.reader_ofMembers order ?_ ?_ (names ▸ unknown) spells.whole
  · intro member inside
    obtain ⟨source, chosen, rfl⟩ := List.mem_map.mp inside
    rw [Value.memberDoc_eq]
    exact owns source (List.mem_filter.mp chosen).1
  · rw [names, List.map_map, List.filter_map]
    refine List.map_congr_left fun member _ => ?_
    rw [Function.comp_apply, Value.memberDoc_eq]

/-! ## Sections -/

section Sections

variable {kept : String → Bool} {doc : Doc} {text : List Char}

theorem readStripConfig_of_isExcerpt {strip : StripConfig} (fits : strip.Fits) (access : Access)
    (excerpt : IsExcerpt (writeStripConfig strip) kept doc) (spells : Doc.Spells text doc) :
    readStripConfig access doc = .ok (strip.keeping kept) := by
  have isOptional : (stripSchema access).IsOptional strip.keeping := {
    once := by simp [stripSchema, RecordField.into]
    plain := by simp [stripSchema, RecordField.into]
    congr := fun first second agree => by
      simp_all [stripSchema, RecordField.into, StripConfig.keeping] }
  refine excerpt.read isOptional ?_ rfl spells
  simp only [writeStripConfig, Value.members, List.forall_mem_cons]
  have length {value : Nat} (inRange : value ≤ Numeral.maxWord) :
      Reader.length (Value.natural value).doc = .ok value := Reader.natural_doc inRange "usize"
  refine ⟨⟨_, rfl, rfl, RecordField.carries_into (length fits.width) ?_⟩,
    ⟨_, rfl, rfl, RecordField.carries_into (length fits.height) ?_⟩,
    ⟨_, rfl, rfl, RecordField.carries_into (signed32_doc fits.dma) ?_⟩,
    ⟨_, rfl, rfl, RecordField.carries_into (signed32_doc fits.gpio) ?_⟩,
    ⟨_, rfl, rfl, RecordField.carries_into (Reader.natural_doc fits.brightness "u8") ?_⟩,
    ⟨_, rfl, rfl, RecordField.carries_into (readStripType_doc access strip.stripType) ?_⟩,
    ⟨_, rfl, rfl, RecordField.carries_into (Reader.natural_doc fits.frequency "u32") ?_⟩,
    ⟨_, rfl, rfl, RecordField.carries_into (Reader.bool_doc strip.invert) ?_⟩, nofun⟩
  all_goals
    intro names
    simp [StripConfig.keeping]

theorem readDisplayConfig_of_isExcerpt (display : DisplayConfig) (access : Access)
    (excerpt : IsExcerpt (writeDisplayConfig display) kept doc) (spells : Doc.Spells text doc) :
    readDisplayConfig access doc = .ok (display.keeping kept) := by
  have isOptional : (displaySchema access).IsOptional display.keeping := {
    once := by simp [displaySchema, RecordField.into]
    plain := by simp [displaySchema, RecordField.into]
    congr := fun first second agree => by
      simp_all [displaySchema, RecordField.into, DisplayConfig.keeping] }
  refine excerpt.read isOptional ?_ rfl spells
  simp only [writeDisplayConfig, Value.members, List.forall_mem_cons]
  refine ⟨⟨_, rfl, rfl, RecordField.carries_into (readRotation_doc display.rotation) ?_⟩,
    ⟨_, rfl, rfl, RecordField.carries_into (Reader.bool_doc display.flipX) ?_⟩,
    ⟨_, rfl, rfl, RecordField.carries_into (Reader.bool_doc display.flipY) ?_⟩,
    ⟨_, rfl, rfl, RecordField.carries_into (readColor_doc display.background) ?_⟩,
    ⟨_, rfl, rfl, RecordField.carries_into (Reader.bool_doc display.transparent) ?_⟩, nofun⟩
  all_goals
    intro names
    simp [DisplayConfig.keeping]

theorem readServerConfig_of_isExcerpt {server : ServerConfig}
    (fits : server.autoRenderInterval ≤ Numeral.maxWord)
    (excerpt : IsExcerpt (writeServerConfig server) kept doc) (spells : Doc.Spells text doc) :
    readServerConfig doc = .ok (server.keeping kept) := by
  have isOptional : serverSchema.IsOptional server.keeping := {
    once := by simp [serverSchema, RecordField.into]
    plain := by simp [serverSchema, RecordField.into]
    congr := fun first second agree => by
      simp_all [serverSchema, RecordField.into, ServerConfig.keeping] }
  refine excerpt.read isOptional ?_ rfl spells
  simp only [writeServerConfig, Value.members, List.forall_mem_cons]
  refine ⟨⟨_, rfl, rfl, RecordField.carries_into (Reader.string_doc server.bind) ?_⟩,
    ⟨_, rfl, rfl, RecordField.carries_into (Reader.word64_doc fits) ?_⟩,
    ⟨_, rfl, rfl, RecordField.carries_into (Reader.bool_doc server.autoRender) ?_⟩, nofun⟩
  all_goals
    intro names
    simp [ServerConfig.keeping]

theorem readDemoConfig_of_isExcerpt {demo : DemoConfig} (fits : demo.Fits)
    (excerpt : IsExcerpt (writeDemoConfig demo) kept doc) (spells : Doc.Spells text doc) :
    readDemoConfig doc = .ok (demo.keeping kept) := by
  have isOptional : demoSchema.IsOptional demo.keeping := {
    once := by simp [demoSchema, RecordField.into]
    plain := by simp [demoSchema, RecordField.into]
    congr := fun first second agree => by
      simp_all [demoSchema, RecordField.into, DemoConfig.keeping] }
  refine excerpt.read isOptional ?_ rfl spells
  simp only [writeDemoConfig, Value.members, List.forall_mem_cons]
  have frames : Reader.optional Reader.word64 (Value.optional Value.natural demo.maxFrames).doc =
      .ok demo.maxFrames :=
    Reader.optional_doc
      (fun frames present => Reader.word64_doc (fits.maxFrames frames present)) nofun
  refine ⟨⟨_, rfl, rfl, RecordField.carries_into (Reader.word64_doc fits.frameInterval) ?_⟩,
    ⟨_, rfl, rfl, RecordField.carries_into frames ?_⟩, nofun⟩
  all_goals
    intro names
    simp [DemoConfig.keeping]

end Sections

/-! ## The whole -/

/-- An excerpt of a section carries what is kept of the section. -/
theorem owns_section {config : Config} (fits : config.Fits) {selection : Selection} :
    ∀ written ∈ (writeConfig config).members, ∀ {doc : Doc} {text : List Char},
      IsExcerpt written.2 (selection.members written.1) doc → Doc.Spells text doc →
        configSchema.Owns (fun sections => config.keeping { selection with sections })
          (written.1, doc) := by
  simp only [writeConfig, Value.members, List.forall_mem_cons]
  refine ⟨fun excerpt spells => ⟨_, rfl, rfl, RecordField.carries_into
      (readStripConfig_of_isExcerpt fits.strip .streamed excerpt spells) ?_⟩,
    fun excerpt spells => ⟨_, rfl, rfl, RecordField.carries_into
      (readDisplayConfig_of_isExcerpt config.display .streamed excerpt spells) ?_⟩,
    fun excerpt spells => ⟨_, rfl, rfl, RecordField.carries_into
      (readServerConfig_of_isExcerpt fits.autoRenderInterval excerpt spells) ?_⟩,
    fun excerpt spells => ⟨_, rfl, rfl, RecordField.carries_into
      (readDemoConfig_of_isExcerpt fits.demo excerpt spells) ?_⟩, nofun⟩
  all_goals
    intro names
    simp [Config.keeping]

theorem readConfig_of_isExcerpt {config : Config} (fits : config.Fits) {selection : Selection}
    {doc : Doc} (left : IsExcerptOfConfig config selection doc) {text : List Char}
    (spells : Doc.Spells text doc) : readConfig doc = .ok (config.keeping selection) := by
  obtain ⟨excerpt, members, foreign, rfl, each, unknown, order⟩ := left
  let taken := fun sections => config.keeping { selection with sections }
  have isOptional : configSchema.IsOptional taken := {
    once := by simp [configSchema, RecordField.into]
    plain := by simp [configSchema, RecordField.into]
    congr := fun first second agree => by
      simp_all [configSchema, RecordField.into, taken, Config.keeping] }
  have names : configSchema.fields.map (·.name) = (writeConfig config).members.map Prod.fst := rfl
  refine isOptional.reader_ofMembers order ?_ ?_ (names ▸ unknown) spells.whole
  · intro member inside
    have known : member ∈ members := order.mem_iff.mpr (List.mem_append_left foreign inside)
    obtain ⟨written, chosen, rfl⟩ := List.mem_map.mp inside
    obtain ⟨listed, kept⟩ := List.mem_filter.mp chosen
    obtain ⟨content, spelled⟩ := spells.of_mem known
    exact owns_section fits written listed (each written listed kept) spelled
  · rw [names, List.map_map, List.filter_map]
    rfl

/-! ### Writing -/

/-- An object from which nothing is left out. -/
theorem isExcerpt_doc (members : List (String × Value)) {kept : String → Bool}
    (all : ∀ name, kept name = true) :
    IsExcerpt (.object members) kept (Value.object members).doc := by
  refine ⟨members.map Value.memberDoc, [], Value.doc_object members, nofun, ?_⟩
  have whole : (Value.object members).members.filter (kept ·.1) = members :=
    List.filter_eq_self.mpr fun member _ => all member.1
  rw [whole, List.append_nil]

theorem fits_writeConfig {config : Config} (fits : config.Fits) : (writeConfig config).Fits := by
  obtain ⟨strip, interval, demo⟩ := fits
  have brightness : config.strip.brightness ≤ Numeral.maxWord :=
    Nat.le_trans strip.brightness (by decide)
  have frequency : config.strip.frequency ≤ Numeral.maxWord :=
    Nat.le_trans strip.frequency (by decide)
  have stripFits : (writeStripConfig config.strip).Fits := .object (by
    simpa using ⟨fits_natural strip.width, fits_natural strip.height, fits_integer strip.dma,
      fits_integer strip.gpio, fits_natural brightness, Value.Fits.string _,
      fits_natural frequency, Value.Fits.bool _⟩)
  have displayFits : (writeDisplayConfig config.display).Fits := .object (by
    simpa using ⟨fits_writeRotation config.display.rotation, Value.Fits.bool _, Value.Fits.bool _,
      fits_writeColor config.display.background, Value.Fits.bool _⟩)
  have serverFits : (writeServerConfig config.server).Fits := .object (by
    simpa using ⟨Value.Fits.string _, fits_natural interval, Value.Fits.bool _⟩)
  have frames : (Value.optional Value.natural config.demo.maxFrames).Fits :=
    fits_optional fun frames present => fits_natural (demo.maxFrames frames present)
  have demoFits : (writeDemoConfig config.demo).Fits := .object (by
    simpa using ⟨fits_natural demo.frameInterval, frames⟩)
  exact .object (by simpa using ⟨stripFits, displayFits, serverFits, demoFits⟩)

end Written

namespace Config

/-- Nothing is left out. -/
def everything : Selection where
  sections _ := true
  members _ _ := true

theorem isExcerptOfConfig_doc (config : Config) :
    IsExcerptOfConfig config everything (writeConfig config).doc := by
  let excerpt (name : String) : Doc :=
    ((writeConfig config).members.lookup name).elim .null Value.doc
  refine ⟨excerpt, (writeConfig config).members.map Value.memberDoc, [], ?_, ?_, nofun, ?_⟩
  · exact Value.doc_object _
  · simp only [writeConfig, Value.members, List.forall_mem_cons]
    exact ⟨fun _ => isExcerpt_doc _ fun _ => rfl, fun _ => isExcerpt_doc _ fun _ => rfl,
      fun _ => isExcerpt_doc _ fun _ => rfl, fun _ => isExcerpt_doc _ fun _ => rfl, nofun⟩
  · exact .refl _

/-- **What is kept of a configuration is read, and everything else is its default.** -/
theorem parse_of_isExcerpt (config : Config) (fits : config.Fits) :
    (∀ (selection : Selection) (doc : Doc) (text : String),
      IsExcerptOfConfig config selection doc → doc.IsTextOf text →
        parse text = .ok (config.keeping selection)) ∧
      parse config.render = .ok config ∧
      ∀ members : String → String → Bool,
        config.keeping { sections := fun _ => false, members } = {} := by
  have cut : ∀ (selection : Selection) (doc : Doc) (text : String),
      IsExcerptOfConfig config selection doc → doc.IsTextOf text →
        parse text = .ok (config.keeping selection) := by
    intro selection doc text excerpt written
    obtain ⟨body, spells⟩ := written.exists_spells
    exact decode_of_isTextOf (readConfig_of_isExcerpt fits excerpt spells) written
  have written := (fits_writeConfig fits).isTextOf_render
  exact ⟨cut, cut everything _ _ (isExcerptOfConfig_doc config) written, fun _ => rfl⟩

/-- A configuration of which a file keeps four members. -/
def tall : Config where
  strip := { width := 16, height := 32, gpio := 21 }
  display := { rotation := .threeQuarter, background := .pureBlue, transparent := true }
  demo := { maxFrames := some 3 }

/-- Two members of the strip and two of the display. -/
def sizes : Selection where
  sections name := name = "strip" || name = "display"
  members _ name := ["width", "height", "rotation", "background"].contains name

/-- The file names its sections in another order, and so does the display, which has a note
besides. -/
theorem parse_of_isExcerpt_tall :
    parse ("\x7b\"display\":\x7b\"background\":255,\"note\":null,\"rotation\":270\x7d,"
        ++ "\"strip\":\x7b\"width\":16,\"height\":32\x7d\x7d") =
      .ok { strip := { width := 16, height := 32 },
            display := { rotation := .threeQuarter, background := .pureBlue } } := by
  have fits : tall.Fits :=
    ⟨⟨by decide, by decide, ⟨by decide, by decide⟩, ⟨by decide, by decide⟩, by decide, by decide⟩,
      by decide, ⟨by decide, by rintro frames ⟨⟩; decide⟩⟩
  have number {value : Nat} (small : value ≤ 0xFFFF) : (Value.natural value).Fits :=
    fits_natural (Nat.le_trans small (by decide))
  let display : Value :=
    .object [("background", .natural 255), ("note", .null), ("rotation", .natural 270)]
  let strip : Value := .object [("width", .natural 16), ("height", .natural 32)]
  have displayFits : display.Fits := .object (by
    simpa using ⟨number (by decide), Value.Fits.null, number (by decide)⟩)
  have stripFits : strip.Fits := .object (by
    simpa using ⟨number (by decide), number (by decide)⟩)
  have written : (Value.object [("display", display), ("strip", strip)]).Fits := .object (by
    simpa using ⟨displayFits, stripFits⟩)
  refine (parse_of_isExcerpt tall fits).1 sizes _ _ ?_ written.isTextOf_render
  refine ⟨fun name => if name = "strip" then strip.doc else display.doc,
    [("display", display.doc), ("strip", strip.doc)], [], rfl, ?_, nofun, .swap _ _ []⟩
  simp only [writeConfig, Value.members, List.forall_mem_cons]
  refine ⟨fun _ => ⟨_, [], rfl, nofun, .refl _⟩, fun _ => ?_, nofun, nofun, nofun⟩
  refine ⟨_, [("note", .null)], rfl, by simp [writeDisplayConfig, Value.members], ?_⟩
  have order : ([("background", (Value.natural 255).doc), ("note", Doc.null)]
      ++ [("rotation", (Value.natural 270).doc)]).Perm _ := List.perm_append_comm
  exact order

end Config

end LedMatrix
