/-
# Tasks

A command does one of four things to a shared canvas: it shows the picture, it edits the
picture, it asks the picture for a number, or it throws the switch for automatic rendering
(`Task`). `SharedCanvas.execute_eq` says that carrying out a command is carrying out its task,
and what holds of the four tasks holds of all commands.

Clients and the timer take turns with a canvas (`Turn`). Of the picture they change the colours,
the background and how it is turned, but never the grid; how it is turned is decided by the
rotation accepted last (`SharedCanvas.orientation_takeAll`).
-/

import LedMatrix.AutoRender
import LedMatrix.Proofs.Pixmap.Wiring
import LedMatrix.Proofs.Strip.Lifecycle
import Mathlib.Data.List.Induction

namespace LedMatrix

/-! ## Tasks -/

/-- What a command comes to. -/
inductive Task where
  /-- Show the picture. -/
  | present
  /-- Edit the picture. -/
  | paint (action : Pixmap.Action)
  /-- Ask the picture for a number. -/
  | ask (question : Pixmap → Except CanvasError Nat)
  /-- Throw the switch for automatic rendering. -/
  | switch (enabled : Bool)

/-- Something to be written with its upper left corner in a given place. -/
structure Writing where
  glyph : Glyph
  x : Int
  y : Int

namespace Writing

/-- A line of text. -/
def text (x y : Int) (text : String) (ink paper : Color) : Writing where
  glyph := { lettering := .text text, ink, paper }
  x
  y

/-- A number. -/
def number (x y : Int) (number : Nat) (ink paper : Color) : Writing where
  glyph := { lettering := .number number, ink, paper }
  x
  y

/-- Write it on a picture. -/
def action (writing : Writing) : Pixmap.Action :=
  .draw writing.glyph.toSource writing.x writing.y Flip.none

end Writing

namespace Command

/-- What a command writes on a picture with the given background, if it writes something. -/
def writing? (background : Color) : Command → Option Writing
  | .drawText x y text color paper => some (.text x y text color (paper.getD background))
  | .drawNumber x y number color => some (.number x y number color background)
  | _ => none

/-- The task of a command for a picture with the given background. -/
def task (background : Color) : Command → Task
  | .render => .present
  | .drawPixel x y color => .paint (.setPixel x y color)
  | .drawText x y text color paper =>
      .paint (Writing.text x y text color (paper.getD background)).action
  | .drawNumber x y number color => .paint (Writing.number x y number color background).action
  | .clear => .paint .clear
  | .width => .ask fun p => .ok p.width
  | .height => .ask fun p => .ok p.height
  | .pixel x y => .ask fun p => (p.pixel x y).map Color.toNat
  | .setRotate degree flipX flipY => .paint (.rotate degree { x := flipX, y := flipY })
  | .setTransparent enabled => .paint (.setTransparent enabled)
  | .setBackground color => .paint (.setBackground color)
  | .setAutoRender enabled => .switch enabled

end Command

namespace SharedCanvas

variable {δ : Type}

/-- Put back the strip after an edit of it, and answer. -/
def settle (canvas : SharedCanvas δ) :
    EStateM.Result CanvasError (Strip δ) (Option Nat) → Response × SharedCanvas δ
  | .ok (some value) strip => (.ofValue value, { canvas with strip })
  | .ok none strip => (.done, { canvas with strip })
  | .error cause strip => (.refusal cause.message, { canvas with strip })

/-- Put back the picture after an edit of it, and answer. -/
def settlePicture (canvas : SharedCanvas δ) :
    EStateM.Result CanvasError Pixmap Unit → Response × SharedCanvas δ
  | .ok _ picture => (.done, { canvas with strip := { canvas.strip with picture } })
  | .error cause picture =>
      (.refusal cause.message, { canvas with strip := { canvas.strip with picture } })

/-- Answer a question. -/
def settleQuestion (canvas : SharedCanvas δ) : Except CanvasError Nat → Response × SharedCanvas δ
  | .ok value => (.ofValue value, canvas)
  | .error cause => (.refusal cause.message, canvas)

theorem settle_paint (action : Pixmap.Action) (canvas : SharedCanvas δ) :
    canvas.settle ((Strip.paint (Pixmap.perform action) >>= fun _ =>
      (pure none : Edit (Strip δ) (Option Nat))) canvas.strip) =
    canvas.settlePicture (Pixmap.perform action canvas.strip.picture) := by
  cases ran : Pixmap.perform action canvas.strip.picture with
  | ok answer picture =>
      have painted : Strip.paint (Pixmap.perform action) canvas.strip =
          .ok answer { canvas.strip with picture } := by
        rw [Strip.paint, Edit.within, ran]
      rw [Edit.bind_of_ok painted]
      rfl
  | error cause picture =>
      have failed : Strip.paint (Pixmap.perform action) canvas.strip =
          .error cause { canvas.strip with picture } := by
        rw [Strip.paint, Edit.within, ran]
      rw [Edit.bind_of_error failed]
      rfl

variable [StripDriver δ]

/-- Carry out a task and answer it. -/
def carryOut (task : Task) (canvas : SharedCanvas δ) : Response × SharedCanvas δ :=
  match task with
  | .present => canvas.settle ((Strip.render >>= fun _ => pure none) canvas.strip)
  | .paint action => canvas.settlePicture (Pixmap.perform action canvas.strip.picture)
  | .ask question => canvas.settleQuestion (question canvas.strip.picture)
  | .switch enabled => (.done, { canvas with autoRender := enabled })

/-- **Carrying out a command is carrying out its task.** -/
theorem execute_eq (command : Command) (canvas : SharedCanvas δ) :
    canvas.execute command = canvas.carryOut (command.task canvas.strip.picture.background) := by
  cases command with
  | render => rfl
  | drawPixel x y color => exact settle_paint (.setPixel x y color) canvas
  | drawText x y text color paper =>
      let background := canvas.strip.picture.background
      exact settle_paint (Writing.text x y text color (paper.getD background)).action canvas
  | drawNumber x y number color =>
      let background := canvas.strip.picture.background
      exact settle_paint (Writing.number x y number color background).action canvas
  | clear => exact settle_paint .clear canvas
  | width => rfl
  | height => rfl
  | pixel x y =>
      have asked : canvas.execute (.pixel x y) =
          canvas.settle ((liftExcept (canvas.strip.picture.pixel x y) >>= fun color : Color =>
            (pure (some color.toNat) : Edit (Strip δ) (Option Nat))) canvas.strip) := rfl
      rw [asked, Command.task, carryOut]
      cases canvas.strip.picture.pixel x y <;> rfl
  | setRotate degree flipX flipY =>
      exact settle_paint (.rotate degree { x := flipX, y := flipY }) canvas
  | setTransparent enabled => exact settle_paint (.setTransparent enabled) canvas
  | setBackground color => exact settle_paint (.setBackground color) canvas
  | setAutoRender enabled => rfl

end SharedCanvas

/-! ## Histories -/

/-- What happens to a shared canvas as one step. -/
inductive Turn where
  /-- A client has a command carried out. -/
  | command (command : Command)
  /-- The timer renders. -/
  | tick

/-- The rotation that a command brings, if it is accepted. -/
def Turn.rotation? : Turn → Option Rotation
  | .command (.setRotate degree _ _) => (Rotation.ofDegrees degree).toOption
  | _ => none

/-- The rotation accepted last. -/
def lastRotation (turns : List Turn) : Option Rotation := turns.reverse.findSome? Turn.rotation?

theorem lastRotation_concat (turns : List Turn) (turn : Turn) :
    lastRotation (turns ++ [turn]) = turn.rotation?.or (lastRotation turns) := by
  rw [lastRotation, List.reverse_concat, List.findSome?_cons]
  cases turn.rotation? <;> rfl

/-! ## What becomes of the picture -/

/-- What a task makes of the picture. -/
def Task.edit : Task → Pixmap → Pixmap
  | .paint action, p => (Pixmap.perform action).after p
  | _, p => p

/-- The grid stays, and an accepted rotation replaces the one before. -/
theorem Task.orientation_edit (command : Command) (p : Pixmap) :
    Orientation.SameGrid p.orientation ((command.task p.background).edit p).orientation ∧
      ((command.task p.background).edit p).orientation.rotation =
        (Turn.command command).rotation?.getD p.orientation.rotation := by
  have steady {action : Pixmap.Action} (steady : ∀ degree flip, action ≠ .rotate degree flip) :
      Orientation.SameGrid p.orientation (Task.edit (.paint action) p).orientation ∧
        (Task.edit (.paint action) p).orientation.rotation = p.orientation.rotation := by
    have same := Pixmap.orientation_perform steady p
    exact ⟨.of_eq same, congrArg Orientation.rotation same⟩
  cases command with
  | drawPixel x y color => exact steady nofun
  | drawText x y text color paper => exact steady nofun
  | drawNumber x y number color => exact steady nofun
  | clear => exact steady nofun
  | setTransparent enabled => exact steady nofun
  | setBackground color => exact steady nofun
  | setRotate degree flipX flipY =>
      apply And.intro (Pixmap.sameGrid_perform _ p)
      show ((Pixmap.setRotation degree { x := flipX, y := flipY }).after p).orientation.rotation =
        (Rotation.ofDegrees degree).toOption.getD p.orientation.rotation
      rw [Edit.after, Pixmap.setRotation_eq]
      cases Rotation.ofDegrees degree <;> rfl
  | _ => exact ⟨.of_eq rfl, rfl⟩

/-- Showing the picture, whatever comes of it, leaves everything but the driver alone. -/
theorem Strip.render_after {δ : Type} [StripDriver δ] (strip : Strip δ) :
    ∃ driver, Strip.render.after strip = { strip with driver } := by
  rcases Bool.eq_false_or_eq_true strip.initialized with initialized | idle
  · rw [Edit.after, render_of_initialized initialized]
    cases ran : StripDriver.render strip.leds strip.driver with
    | ok answer driver => exact ⟨driver, Edit.after_of_ok (call_of_ok ran)⟩
    | error cause driver => exact ⟨driver, Edit.after_of_error (call_of_error ran)⟩
  · exact ⟨strip.driver, Edit.after_of_error (render_of_idle idle)⟩

/-- The timer leaves behind what showing the picture leaves behind. -/
theorem TimedCanvas.render_eq {δ : Type} [StripDriver δ] (canvas : SharedCanvas δ) :
    TimedCanvas.render canvas = { canvas with strip := Strip.render.after canvas.strip } := by
  unfold TimedCanvas.render Edit.after
  cases Strip.render canvas.strip <;> rfl

namespace SharedCanvas

variable {δ : Type} [StripDriver δ]

/-- A canvas after one turn. -/
def take (canvas : SharedCanvas δ) : Turn → SharedCanvas δ
  | .command command => (canvas.execute command).2
  | .tick => TimedCanvas.render canvas

/-- A canvas after several turns. -/
def takeAll (turns : List Turn) (canvas : SharedCanvas δ) : SharedCanvas δ :=
  turns.foldl take canvas

theorem takeAll_concat (turns : List Turn) (turn : Turn) (canvas : SharedCanvas δ) :
    takeAll (turns ++ [turn]) canvas = (takeAll turns canvas).take turn := List.foldl_append

/-- The strip after showing the picture, in a task or from the timer. -/
theorem carryOut_present (canvas : SharedCanvas δ) :
    (canvas.carryOut .present).2 = { canvas with strip := Strip.render.after canvas.strip } := by
  unfold carryOut
  cases ran : Strip.render canvas.strip with
  | ok answer strip =>
      rw [Edit.after_of_ok ran, Edit.bind_of_ok ran]
      rfl
  | error cause strip =>
      rw [Edit.after_of_error ran, Edit.bind_of_error ran]
      rfl

/-- Only a question is answered by a number. -/
theorem value_carryOut {task : Task} {canvas : SharedCanvas δ} {value : Nat}
    (answered : value ∈ (canvas.carryOut task).1.value) :
    ∃ question, task = .ask question ∧ question canvas.strip.picture = .ok value := by
  cases task with
  | present =>
      rw [carryOut] at answered
      cases ran : Strip.render canvas.strip with
      | ok answer strip =>
          rw [Edit.bind_of_ok ran] at answered
          cases answered
      | error cause strip =>
          rw [Edit.bind_of_error ran] at answered
          cases answered
  | paint action =>
      rw [carryOut] at answered
      cases ran : Pixmap.perform action canvas.strip.picture with
      | ok answer picture =>
          rw [ran] at answered
          cases answered
      | error cause picture =>
          rw [ran] at answered
          cases answered
  | ask question =>
      refine ⟨question, rfl, ?_⟩
      rw [carryOut] at answered
      cases asked : question canvas.strip.picture with
      | ok number =>
          rw [asked] at answered
          cases answered
          rfl
      | error cause =>
          rw [asked] at answered
          cases answered
  | switch enabled => cases answered

/-- Only throwing the switch changes it. -/
theorem autoRender_carryOut (task : Task) (canvas : SharedCanvas δ) :
    (canvas.carryOut task).2.autoRender =
      match task with
      | .switch enabled => enabled
      | _ => canvas.autoRender := by
  cases task with
  | present => rw [carryOut_present]
  | paint action =>
      rw [carryOut]
      cases Pixmap.perform action canvas.strip.picture <;> rfl
  | ask question =>
      rw [carryOut]
      cases question canvas.strip.picture <;> rfl
  | switch enabled => rfl

/-- A task edits the picture and reaches the driver; the rest of the strip stays. -/
theorem strip_carryOut (task : Task) (canvas : SharedCanvas δ) :
    ∃ driver, (canvas.carryOut task).2.strip =
      { canvas.strip with picture := task.edit canvas.strip.picture, driver } := by
  cases task with
  | present =>
      obtain ⟨driver, left⟩ := Strip.render_after canvas.strip
      refine ⟨driver, ?_⟩
      rw [carryOut_present, left]
      rfl
  | paint action =>
      refine ⟨canvas.strip.driver, ?_⟩
      show (canvas.settlePicture (Pixmap.perform action canvas.strip.picture)).2.strip =
        { canvas.strip with picture := (Pixmap.perform action).after canvas.strip.picture }
      rw [Edit.after]
      cases Pixmap.perform action canvas.strip.picture <;> rfl
  | ask question =>
      refine ⟨canvas.strip.driver, ?_⟩
      show (canvas.settleQuestion (question canvas.strip.picture)).2.strip = canvas.strip
      cases question canvas.strip.picture <;> rfl
  | switch enabled => exact ⟨canvas.strip.driver, rfl⟩

/-- What one turn does to the orientation. -/
theorem orientation_take (canvas : SharedCanvas δ) (turn : Turn) :
    Orientation.SameGrid canvas.strip.picture.orientation
        (canvas.take turn).strip.picture.orientation ∧
      (canvas.take turn).strip.picture.orientation.rotation =
        turn.rotation?.getD canvas.strip.picture.orientation.rotation := by
  cases turn with
  | command command =>
      obtain ⟨driver, left⟩ :=
        strip_carryOut (command.task canvas.strip.picture.background) canvas
      rw [take, execute_eq, left]
      exact Task.orientation_edit command canvas.strip.picture
  | tick =>
      obtain ⟨driver, left⟩ := Strip.render_after canvas.strip
      rw [take, TimedCanvas.render_eq, left]
      exact ⟨.of_eq rfl, rfl⟩

/-- **The grid of a canvas is the one it began with, turned by the rotation accepted last.** -/
theorem orientation_takeAll (turns : List Turn) (start : SharedCanvas δ) :
    Orientation.SameGrid start.strip.picture.orientation
        (takeAll turns start).strip.picture.orientation ∧
      (takeAll turns start).strip.picture.orientation.rotation =
        (lastRotation turns).getD start.strip.picture.orientation.rotation := by
  induction turns using List.reverseRecOn with
  | nil => exact ⟨.of_eq rfl, rfl⟩
  | append_singleton earlier turn ih =>
      obtain ⟨grid, rotation⟩ := ih
      obtain ⟨sameGrid, turned⟩ := orientation_take (takeAll earlier start) turn
      rw [takeAll_concat, lastRotation_concat]
      apply And.intro (grid.trans sameGrid)
      rw [turned, rotation]
      cases turn.rotation? <;> rfl

end SharedCanvas

end LedMatrix
