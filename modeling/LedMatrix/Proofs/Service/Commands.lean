/-
# What commands change

Edits of a picture are not undone when they fail, and painting can fail half-way. That a
refused command leaves the picture alone is a matter of which edits commands come to: a cell is
looked up before it is coloured, a degree is checked before the picture is turned, and the
glyphs that are painted can be read to their last cell. `Refused` names the four refusals that
are left, and `Settled` the two ways in which a command can end.
-/

import LedMatrix.Proofs.Glyph
import LedMatrix.Proofs.Pixmap.Placement
import LedMatrix.Proofs.Service.Tasks
import LedMatrix.Proofs.Written.Commands

namespace LedMatrix

/-! ## What can be refused -/

namespace Rotation

/-- The degrees of the quarter turns. -/
def allDegrees : List Int := [0, 90, 180, 270]

theorem exists_ofDegrees {degree : Int} (turn : degree ∈ allDegrees) :
    ∃ rotation, ofDegrees degree = .ok rotation := by
  simp only [allDegrees, List.mem_cons, List.not_mem_nil, or_false] at turn
  rcases turn with rfl | rfl | rfl | rfl
  · exact ⟨upright, rfl⟩
  · exact ⟨quarter, rfl⟩
  · exact ⟨half, rfl⟩
  · exact ⟨threeQuarter, rfl⟩

theorem ofDegrees_of_not_mem {degree : Int} (turn : degree ∉ allDegrees) :
    ofDegrees degree = .error (.invalidRotation degree) := by
  simp only [allDegrees, List.mem_cons, List.not_mem_nil, or_false, not_or] at turn
  obtain ⟨upright, quarter, half, threeQuarter⟩ := turn
  rw [ofDegrees, if_neg upright, if_neg quarter, if_neg half, if_neg threeQuarter]

end Rotation

namespace Command

/-- Whether a command is meant to change colours of the picture. -/
def isDrawing : Command → Bool
  | .drawPixel .. | .drawText .. | .drawNumber .. | .clear => true
  | _ => false

/-- Whether a command can be refused at all. -/
def isRefusable : Command → Bool
  | .render | .drawPixel .. | .pixel .. | .setRotate .. => true
  | _ => false

/-- The numbers of a command have the width of their kind, and its text is not too long. -/
structure IsSendable (command : Command) : Prop where
  fits : command.Fits
  short : command.arguments.text.length < Lettering.textLimit

end Command

namespace SharedCanvas

variable {δ : Type}

/-- The position is a cell of the strip, the way the strip is turned. -/
def Inside (strip : Strip δ) (x y : Int) : Prop :=
  0 ≤ x ∧ x < strip.width ∧ 0 ≤ y ∧ y < strip.height

instance (strip : Strip δ) (x y : Int) : Decidable (Inside strip x y) :=
  inferInstanceAs (Decidable (_ ∧ _))

/-- A cell has a place for its colour. -/
theorem cellAt_of_inside {strip : Strip δ} {x y : Int} (inside : Inside strip x y) :
    cellAt x y strip.picture.width strip.picture.height = .ok (x.toNat, y.toNat) := if_pos inside

/-- Anything else is reported. -/
theorem cellAt_of_outside {strip : Strip δ} {x y : Int} (outside : ¬ Inside strip x y) :
    cellAt x y strip.picture.width strip.picture.height =
      .error (.outOfRange x y strip.width strip.height) := if_neg outside

theorem pixel_of_inside {strip : Strip δ} {x y : Int} (inside : Inside strip x y) :
    strip.picture.pixel x y = .ok (strip.picture.colorAt x.toNat y.toNat) := by
  rw [Pixmap.pixel, cellAt_of_inside inside]
  rfl

theorem pixel_of_outside {strip : Strip δ} {x y : Int} (outside : ¬ Inside strip x y) :
    strip.picture.pixel x y = .error (.outOfRange x y strip.width strip.height) := by
  rw [Pixmap.pixel, cellAt_of_outside outside]
  rfl

variable [StripDriver δ]

/-- Why a strip refuses a command. -/
inductive Refused (strip : Strip δ) : Command → CanvasError → Prop
  /-- There is no cell to be coloured. -/
  | drawPixel {x y : Int} (color : Color) (outside : ¬ Inside strip x y) :
      Refused strip (.drawPixel x y color) (.outOfRange x y strip.width strip.height)
  /-- There is no cell to be read. -/
  | pixel {x y : Int} (outside : ¬ Inside strip x y) :
      Refused strip (.pixel x y) (.outOfRange x y strip.width strip.height)
  /-- The degree is no quarter turn. -/
  | setRotate {degree : Int} (flipX flipY : Bool) (noTurn : degree ∉ Rotation.allDegrees) :
      Refused strip (.setRotate degree flipX flipY) (.invalidRotation degree)
  /-- The picture cannot be shown. -/
  | render {cause : CanvasError} {left : Strip δ}
      (failed : Strip.render strip = .error cause left) : Refused strip .render cause

theorem Refused.unique {strip : Strip δ} {command : Command} {cause other : CanvasError}
    (first : Refused strip command cause) (second : Refused strip command other) :
    cause = other := by
  cases first with
  | drawPixel color outside => cases second; rfl
  | pixel outside => cases second; rfl
  | setRotate flipX flipY noTurn => cases second; rfl
  | render failed =>
      cases second with
      | render failed' =>
          cases failed.symm.trans failed'
          rfl

theorem not_refused {strip : Strip δ} {command : Command} (mild : command.isRefusable = false)
    (cause : CanvasError) : ¬ Refused strip command cause := by
  intro why
  cases why <;> cases mild

/-- How a command ends. -/
inductive Settled (canvas : SharedCanvas δ) (command : Command) :
    Response × SharedCanvas δ → Prop
  /-- It is refused, and at most the driver has noticed. -/
  | refused {cause : CanvasError} (driver : δ) (why : Refused canvas.strip command cause) :
      Settled canvas command
        (.refusal cause.message, { canvas with strip := { canvas.strip with driver } })
  /-- It is carried out. -/
  | carriedOut {reply : Response} {left : SharedCanvas δ}
      (granted : ∀ cause, ¬ Refused canvas.strip command cause) (ok : reply.ok = true)
      (memory : command.isDrawing = false → left.strip.leds = canvas.strip.leds) :
      Settled canvas command (reply, left)

namespace Settled

/-- A command that draws may change the memory. -/
theorem drawn {canvas : SharedCanvas δ} {command : Command} {reply : Response}
    {left : SharedCanvas δ} (granted : ∀ cause, ¬ Refused canvas.strip command cause)
    (ok : reply.ok = true) (drawing : command.isDrawing = true) :
    Settled canvas command (reply, left) :=
  .carriedOut granted ok fun other => absurd (other.symm.trans drawing) Bool.false_ne_true

variable {canvas : SharedCanvas δ} {command : Command} {result : Response × SharedCanvas δ}

theorem ok_eq_false_iff (settled : Settled canvas command result) :
    result.1.ok = false ↔ ∃ cause, Refused canvas.strip command cause := by
  cases settled with
  | refused driver why => exact ⟨fun _ => ⟨_, why⟩, fun _ => rfl⟩
  | carriedOut granted ok memory =>
      constructor
      · intro refused
        exact absurd (refused.symm.trans ok) Bool.false_ne_true
      · rintro ⟨cause, why⟩
        exact absurd why (granted cause)

theorem reply_of_refused (settled : Settled canvas command result) {cause : CanvasError}
    (why : Refused canvas.strip command cause) : result.1 = .refusal cause.message := by
  cases settled with
  | refused driver why' => rw [why'.unique why]
  | carriedOut granted ok memory => exact absurd why (granted cause)

/-- A refused command changes nothing that clients can see. -/
theorem unchanged (settled : Settled canvas command result) (failed : result.1.ok = false) :
    result.2.strip.picture = canvas.strip.picture ∧
      result.2.strip.config = canvas.strip.config ∧
      result.2.strip.initialized = canvas.strip.initialized ∧
      result.2.autoRender = canvas.autoRender := by
  cases settled with
  | refused driver why => exact ⟨rfl, rfl, rfl, rfl⟩
  | carriedOut granted ok memory => exact absurd (failed.symm.trans ok) Bool.false_ne_true

/-- The memory is changed by commands that are meant to change it. -/
theorem leds_eq (settled : Settled canvas command result) (other : command.isDrawing = false) :
    result.2.strip.leds = canvas.strip.leds := by
  cases settled with
  | refused driver why => rfl
  | carriedOut granted ok memory => exact memory other

end Settled

/-! ## How every command ends -/

/-- What is written is written to its end, in part or as a whole off the picture. -/
theorem carryOut_writing {writing : Writing} (fits : writing.glyph.lettering.Fits)
    (canvas : SharedCanvas δ) :
    ∃ picture, canvas.carryOut (.paint writing.action) =
      (.done, { canvas with strip := { canvas.strip with picture } }) := by
  obtain ⟨picture, drawn, -, -⟩ := Pixmap.draw_eq (Glyph.readable_toSource fits)
    writing.x writing.y Flip.none canvas.strip.picture
  refine ⟨picture, ?_⟩
  show canvas.settlePicture (Pixmap.draw writing.glyph.toSource writing.x writing.y Flip.none
    canvas.strip.picture) = _
  rw [drawn]
  rfl

theorem settled_writing {writing : Writing} (fits : writing.glyph.lettering.Fits)
    {canvas : SharedCanvas δ} {command : Command}
    (task : command.task canvas.strip.picture.background = .paint writing.action)
    (mild : command.isRefusable = false) (drawing : command.isDrawing = true) :
    Settled canvas command (canvas.execute command) := by
  obtain ⟨picture, ran⟩ := carryOut_writing fits canvas
  rw [execute_eq, task, ran]
  exact .drawn (not_refused mild) rfl drawing

theorem settled_render (canvas : SharedCanvas δ) :
    Settled canvas .render (canvas.execute .render) := by
  obtain ⟨driver, left⟩ := Strip.render_after canvas.strip
  show Settled canvas .render (canvas.settle ((Strip.render >>= fun _ => pure none) canvas.strip))
  cases ran : Strip.render canvas.strip with
  | ok answer strip =>
      have granted : ∀ cause, ¬ Refused canvas.strip .render cause := by
        intro cause why
        cases why with
        | render failed => cases ran.symm.trans failed
      rw [Edit.after_of_ok ran] at left
      subst left
      rw [Edit.bind_of_ok ran]
      exact .carriedOut granted rfl fun _ => rfl
  | error cause strip =>
      rw [Edit.after_of_error ran] at left
      subst left
      rw [Edit.bind_of_error ran]
      exact .refused driver (.render ran)

/-- **Every command ends in one of the two ways.** -/
theorem settled_execute (canvas : SharedCanvas δ) {command : Command}
    (sendable : command.IsSendable) : Settled canvas command (canvas.execute command) := by
  cases command with
  | render => exact settled_render canvas
  | drawPixel x y color =>
      rw [execute_eq, Command.task, carryOut, Pixmap.perform, Pixmap.setPixel_eq]
      by_cases inside : Inside canvas.strip x y
      · have granted : ∀ cause, ¬ Refused canvas.strip (.drawPixel x y color) cause := by
          intro cause why
          cases why with
          | drawPixel _ outside => exact outside inside
        rw [cellAt_of_inside inside]
        exact .drawn granted rfl rfl
      · rw [cellAt_of_outside inside]
        exact .refused canvas.strip.driver (.drawPixel color inside)
  | drawText x y text color paper =>
      have fits : (Lettering.text text).Fits := sendable.short
      exact settled_writing fits rfl rfl rfl
  | drawNumber x y number color =>
      have fits : (Lettering.number number).Fits := sendable.fits.number
      exact settled_writing fits rfl rfl rfl
  | clear => exact .drawn (not_refused rfl) rfl rfl
  | width => exact .carriedOut (not_refused rfl) rfl fun _ => rfl
  | height => exact .carriedOut (not_refused rfl) rfl fun _ => rfl
  | pixel x y =>
      rw [execute_eq, Command.task, carryOut]
      by_cases inside : Inside canvas.strip x y
      · have granted : ∀ cause, ¬ Refused canvas.strip (.pixel x y) cause := by
          intro cause why
          cases why with
          | pixel outside => exact outside inside
        rw [pixel_of_inside inside]
        exact .carriedOut granted rfl fun _ => rfl
      · rw [pixel_of_outside inside]
        exact .refused canvas.strip.driver (.pixel inside)
  | setRotate degree flipX flipY =>
      rw [execute_eq, Command.task, carryOut, Pixmap.perform, Pixmap.setRotation_eq]
      by_cases turn : degree ∈ Rotation.allDegrees
      · obtain ⟨rotation, accepted⟩ := Rotation.exists_ofDegrees turn
        have granted : ∀ cause, ¬ Refused canvas.strip (.setRotate degree flipX flipY) cause := by
          intro cause why
          cases why with
          | setRotate _ _ noTurn => exact noTurn turn
        rw [accepted]
        exact .carriedOut granted rfl fun _ => rfl
      · rw [Rotation.ofDegrees_of_not_mem turn]
        exact .refused canvas.strip.driver (.setRotate flipX flipY turn)
  | setTransparent enabled => exact .carriedOut (not_refused rfl) rfl fun _ => rfl
  | setBackground color => exact .carriedOut (not_refused rfl) rfl fun _ => rfl
  | setAutoRender enabled => exact .carriedOut (not_refused rfl) rfl fun _ => rfl

end SharedCanvas

/-! ## Writing -/

namespace Writing

/-- Nothing goes wrong on the way while something is written on a picture: wherever its glyph
is read there is an outcome, its cells have a colour and coordinates of 32 bits, and each is
laid over a place of the memory or misses the picture. -/
structure Sound (writing : Writing) (p : Pixmap) : Prop where
  read : ∀ x y : Int,
    writing.glyph.checkedPixel? x y = some (writing.glyph.toSource.pixel x y)
  cell : ∀ column row : Nat, column < writing.glyph.toSource.width →
    row < writing.glyph.toSource.height →
      coordinate column = column ∧ coordinate row = row ∧
        ∃ color, writing.glyph.toSource.pixel column row = .ok color
  place : ∀ column row : Nat, column < writing.glyph.toSource.width →
    row < writing.glyph.toSource.height →
      ∃ target, p.checkedTarget? writing.glyph.toSource writing.x writing.y Flip.none
        (column, row) = some target ∧ ∀ place ∈ target, place < p.memory.size

end Writing

/-- Something that fits, at a corner that fits, is written without a fault. -/
theorem Writing.sound {writing : Writing} (fits : writing.glyph.lettering.Fits)
    (hx : IsCoordinate writing.x) (hy : IsCoordinate writing.y) {p : Pixmap}
    (width : p.width < lengthLimit) (height : p.height < lengthLimit) : writing.Sound p := by
  have readable := Glyph.readable_toSource fits
  constructor
  · exact writing.glyph.checkedPixel?_eq
  · intro column row hc hr
    exact ⟨coordinate_of_lt (hc.trans readable.width_lt),
      coordinate_of_lt (hr.trans readable.height_lt), readable.pixel_ok column row hc hr⟩
  · intro column row hc hr
    obtain ⟨target, found, lands⟩ := @Pixmap.exists_checkedTarget? p width height _ readable _ _
      hx hy Flip.none (column, row) ⟨hc, hr⟩
    refine ⟨target, found, ?_⟩
    intro place member
    obtain ⟨column', row', hc', hr', -, rfl⟩ := (lands place).mp member
    rw [p.size_memory]
    exact p.orientation.index_lt hc' hr'

/-- A number of 32 bits is a coordinate. -/
theorem IsSigned32.isCoordinate {value : Int} (inRange : IsSigned32 value) :
    IsCoordinate value := by
  obtain ⟨lower, upper⟩ := inRange
  unfold IsCoordinate lengthLimit
  omega

/-- The logical sides are bounded if the physical ones are. -/
theorem Orientation.sides_lt_iff {o : Orientation} {limit : Nat} :
    o.width < limit ∧ o.height < limit ↔ o.physicalWidth < limit ∧ o.physicalHeight < limit := by
  unfold Orientation.width Orientation.height
  cases o.rotation.isTransposed
  · exact Iff.rfl
  · exact And.comm

namespace Command

variable {command : Command} (sendable : command.IsSendable) {background : Color}
  {writing : Writing} (written : command.writing? background = some writing)
include sendable written

/-- What a command writes fits, and so does its corner. -/
theorem fits_writing : writing.glyph.lettering.Fits ∧ IsCoordinate writing.x ∧
    IsCoordinate writing.y := by
  cases command with
  | drawText x y text color paper =>
      cases written
      exact ⟨sendable.short, sendable.fits.x.isCoordinate, sendable.fits.y.isCoordinate⟩
  | drawNumber x y number color =>
      cases written
      exact ⟨sendable.fits.number, sendable.fits.x.isCoordinate, sendable.fits.y.isCoordinate⟩
  | _ => cases written

omit sendable in
/-- A command that writes does nothing else. -/
theorem task_of_writing : command.task background = .paint writing.action := by
  cases command with
  | drawText x y text color paper => cases written; rfl
  | drawNumber x y number color => cases written; rfl
  | _ => cases written

end Command

namespace SharedCanvas

variable {δ : Type} [StripDriver δ]

/-- What is asked of the sides of a canvas is asked of its grid. -/
theorem sides_takeAll {start : SharedCanvas δ} (width : start.strip.width < lengthLimit)
    (height : start.strip.height < lengthLimit) (turns : List Turn) :
    (takeAll turns start).strip.width < lengthLimit ∧
      (takeAll turns start).strip.height < lengthLimit := by
  obtain ⟨⟨-, sameWidth, sameHeight⟩, -⟩ := orientation_takeAll turns start
  have grid := Orientation.sides_lt_iff.mp ⟨width, height⟩
  rw [← sameWidth, ← sameHeight] at grid
  exact Orientation.sides_lt_iff.mpr grid

/-- The sides of a canvas are those of the grid it began with, the way it was turned last. -/
theorem sides_eq (turns : List Turn) (start : SharedCanvas δ) :
    let grid := start.strip.picture.orientation
    let rotation := (lastRotation turns).getD grid.rotation
    (takeAll turns start).strip.width =
        (if rotation.isTransposed then grid.physicalHeight else grid.physicalWidth) ∧
      (takeAll turns start).strip.height =
        (if rotation.isTransposed then grid.physicalWidth else grid.physicalHeight) := by
  intro grid rotation
  obtain ⟨⟨-, sameWidth, sameHeight⟩, turned⟩ := orientation_takeAll turns start
  have width : (takeAll turns start).strip.width =
      (takeAll turns start).strip.picture.orientation.width := rfl
  have height : (takeAll turns start).strip.height =
      (takeAll turns start).strip.picture.orientation.height := rfl
  rw [width, height, Orientation.width, Orientation.height, sameWidth, sameHeight, turned]
  exact ⟨rfl, rfl⟩

/-- A cell is answered by the number of its colour. -/
theorem execute_pixel_of_inside {canvas : SharedCanvas δ} {x y : Int}
    (inside : Inside canvas.strip x y) :
    canvas.execute (.pixel x y) =
      (.ofValue (canvas.strip.picture.colorAt x.toNat y.toNat).toNat, canvas) := by
  rw [execute_eq, Command.task, carryOut, pixel_of_inside inside]
  rfl

/-- **Refused commands change nothing, and only drawing commands change colours.** Take any
canvas with sides of 32 bits, after any turns of clients and the timer, and any command. If it
is refused, the picture is what it was, memory, orientation, background and transparency, and so
are the two flags. It is refused exactly if a cell outside the picture is coloured or asked for,
if a degree is no quarter turn, or if showing the picture fails, and the reply gives this cause.
Clearing is always carried out, and so is writing, wherever it lands: no step of it goes wrong.
A command that does not draw leaves the memory alone. The sides are those of the grid, exchanged
if the rotation accepted last says so, and the number of a cell is that of a colour. -/
theorem commands_all_or_nothing (start : SharedCanvas δ) (turns : List Turn)
    (width : start.strip.width < lengthLimit) (height : start.strip.height < lengthLimit)
    {command : Command} (sendable : command.IsSendable) :
    let grid := start.strip.picture.orientation
    let rotation := (lastRotation turns).getD grid.rotation
    let canvas := takeAll turns start
    let reply := (canvas.execute command).1
    let left := (canvas.execute command).2
    (reply.ok = false →
      left.strip.picture = canvas.strip.picture ∧ left.strip.config = canvas.strip.config ∧
      left.strip.initialized = canvas.strip.initialized ∧
      left.autoRender = canvas.autoRender) ∧
    (reply.ok = false ↔ ∃ cause, Refused canvas.strip command cause) ∧
    (∀ cause, Refused canvas.strip command cause → reply = .refusal cause.message) ∧
    (command = .clear → reply = .done) ∧
    (∀ writing, command.writing? canvas.strip.picture.background = some writing →
      reply = .done ∧ writing.Sound canvas.strip.picture) ∧
    (command.isDrawing = false → left.strip.leds = canvas.strip.leds) ∧
    (canvas.execute .width).1 =
      .ofValue (if rotation.isTransposed then grid.physicalHeight else grid.physicalWidth) ∧
    (canvas.execute .height).1 =
      .ofValue (if rotation.isTransposed then grid.physicalWidth else grid.physicalHeight) ∧
    ∀ x y : Int, Inside canvas.strip x y → ∃ color, canvas.strip.picture.pixel x y = .ok color ∧
      (canvas.execute (.pixel x y)).1 = .ofValue color.toNat ∧ color.toNat < 0x1000000 := by
  intro grid rotation canvas reply left
  have settled : Settled canvas command (reply, left) := settled_execute canvas sendable
  have sides : canvas.strip.width < lengthLimit ∧ canvas.strip.height < lengthLimit :=
    sides_takeAll width height turns
  obtain ⟨across, down⟩ := sides_eq turns start
  have cleared : command = .clear → reply = .done := by
    rintro rfl
    rfl
  have written : ∀ writing, command.writing? canvas.strip.picture.background = some writing →
      reply = .done ∧ writing.Sound canvas.strip.picture := by
    intro writing task
    obtain ⟨fits, hx, hy⟩ := Command.fits_writing sendable task
    obtain ⟨picture, ran⟩ := carryOut_writing fits canvas
    rw [← Command.task_of_writing task, ← execute_eq] at ran
    exact ⟨congrArg Prod.fst ran, Writing.sound fits hx hy sides.1 sides.2⟩
  refine ⟨settled.unchanged, settled.ok_eq_false_iff, fun cause => settled.reply_of_refused, cleared,
    written, settled.leds_eq, congrArg Response.ofValue across, congrArg Response.ofValue down, ?_⟩
  intro x y inside
  exact ⟨_, pixel_of_inside inside, congrArg Prod.fst (execute_pixel_of_inside inside),
    Color.toNat_lt _⟩

/-- A canvas of four by three cells is turned by a quarter and then by a degree that is no turn.
It is three cells wide and four high, and a number that overlaps two of its edges is written. -/
theorem commands_all_or_nothing_turned :
    let start : SharedCanvas Headless := { strip := Strip.new { width := 4, height := 3 } {} }
    let turns : List Turn :=
      [.command (.setRotate 90 false false), .tick, .command (.setRotate 45 false false)]
    let canvas := takeAll turns start
    let command := Command.drawNumber (-2) 2 17 .pureRed
    start.strip.width < lengthLimit ∧ start.strip.height < lengthLimit ∧ command.IsSendable ∧
      (canvas.execute command).1 = .done ∧ (canvas.execute .width).1 = .ofValue 3 ∧
      (canvas.execute .height).1 = .ofValue 4 := by
  intro start turns canvas command
  have width : start.strip.width < lengthLimit := by decide
  have height : start.strip.height < lengthLimit := by decide
  have sendable : command.IsSendable :=
    ⟨⟨by decide, by decide, by decide, by decide⟩, by decide⟩
  obtain ⟨-, -, -, -, written, -, across, down, -⟩ :=
    commands_all_or_nothing start turns width height sendable
  exact ⟨width, height, sendable, (written _ rfl).1, across, down⟩

end SharedCanvas

end LedMatrix
