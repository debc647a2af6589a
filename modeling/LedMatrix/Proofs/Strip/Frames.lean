/-
# Frames

What the driver of a strip is given is what the canvas shows. A frame is the memory of the
picture, so it is in wiring order; the panel behind it stays the same however the picture is
turned, and a logical cell is found in the frame where the orientation of the moment puts it.

Three things have to agree that are set at different times: the memory of the picture, the
grid of its orientation and the length of frames that the driver was told at the start.
`OnPanel` says that they do, and every request keeps it (`OnPanel.serve`). Hence a frame is
never refused, and the driver keeps it until it takes the next one or is started anew. The
driver here is the one that only records; a driver may have been in use before.
-/

import LedMatrix.Proofs.Pixmap.Wiring
import LedMatrix.Proofs.Strip.Lifecycle

namespace LedMatrix

namespace Headless

/-- A frame of the right length is taken by a driver that is initialised. -/
theorem render_of_size {driver : Headless} {frame : Array Color}
    (initialized : driver.initialized = true) (size : frame.size = driver.frameLength) :
    render frame driver =
      .ok () { driver with lastFrame := frame, frames := driver.frames + 1 } := by
  refine (Edit.get_bind _ driver).trans ?_
  simp only [initialized, size, Bool.not_true, Bool.false_eq_true, if_false, ne_eq,
    not_true_eq_false]
  rfl

end Headless

namespace Strip

/-! ## Requests to a strip with a canvas -/

/-- What callers can ask of a strip, painting by what can be asked of a picture. -/
inductive Request where
  | init
  | render
  | wait
  | uninit
  | configure (display : DisplayConfig)
  | canvas (action : Pixmap.Action)

namespace Request

/-- The request among all that can be done to a strip. -/
def action : Request → Action
  | init => .init
  | render => .render
  | wait => .wait
  | uninit => .uninit
  | configure display => .configure display
  | canvas action => .paint (Pixmap.perform action)

/-- The strip after the request, whether or not it succeeds. -/
def serve (request : Request) (strip : Strip Headless) : Strip Headless :=
  (perform request.action).after strip

/-- Whether the request shows a frame, going by what its caller is told. -/
def showsFrame : Request → Strip Headless → Bool
  | render, strip => (Strip.render.answer strip).isOk
  | _, _ => false

/-- Whether the request gives the driver a frame: one that is shown, or the black one with
which a driver is started. -/
def replacesFrame : Request → Strip Headless → Bool
  | render, strip => showsFrame render strip
  | init, strip => !strip.initialized
  | _, _ => false

end Request

/-- A strip after a run of requests. -/
def serveAll (requests : List Request) (strip : Strip Headless) : Strip Headless :=
  requests.foldl (fun strip request => request.serve strip) strip

/-- How many frames a run shows. -/
def framesShown : List Request → Strip Headless → Nat
  | [], _ => 0
  | request :: rest, strip =>
      (request.showsFrame strip).toNat + framesShown rest (request.serve strip)

/-- No request of the run gives the driver another frame. -/
def KeepsFrame : List Request → Strip Headless → Prop
  | [], _ => True
  | request :: rest, strip =>
      request.replacesFrame strip = false ∧ KeepsFrame rest (request.serve strip)

/-- Whether a run gives the driver another frame can be found out by running it. -/
instance decidableKeepsFrame : (requests : List Request) → (strip : Strip Headless) →
    Decidable (KeepsFrame requests strip)
  | [], _ => isTrue trivial
  | request :: rest, strip =>
      have := decidableKeepsFrame rest (request.serve strip)
      inferInstanceAs (Decidable (_ ∧ _))

/-! ## What one request does -/

variable {strip : Strip Headless}

/-- The picture lies on the panel of the configuration, and the driver knows the panel. -/
structure OnPanel (config : StripConfig) (strip : Strip Headless) : Prop where
  config_eq : strip.config = config
  layout : strip.picture.orientation.layout = .serpentine
  physicalWidth : strip.picture.orientation.physicalWidth = config.width
  physicalHeight : strip.picture.orientation.physicalHeight = config.height
  driver : strip.initialized = true → strip.driver.initialized = true ∧
    strip.driver.frameLength = config.width * config.height ∧
    strip.driver.lastFrame.size = config.width * config.height

theorem onPanel_new (config : StripConfig) (driver : Headless) :
    OnPanel config (Strip.new config driver) :=
  ⟨rfl, rfl, rfl, rfl, nofun⟩

/-- A driver without hardware can always be started, and starts with a black frame. -/
theorem init_of_headless (idle : strip.initialized = false) :
    init strip = .ok () { strip with
      initialized := true
      driver := { strip.driver with
        initialized := true
        frameLength := strip.config.width * strip.config.height
        lastFrame := Array.replicate (strip.config.width * strip.config.height) .black } } :=
  init_of_ok idle rfl

namespace OnPanel

variable {config : StripConfig}

/-- The memory has one place for each cell of the panel. -/
theorem size_leds (panel : OnPanel config strip) :
    strip.leds.size = config.width * config.height := by
  rw [leds, strip.picture.size_memory, Orientation.area, panel.physicalWidth,
    panel.physicalHeight]

/-- Every frame of a strip that is initialised is taken. -/
theorem render_eq (panel : OnPanel config strip) (initialized : strip.initialized = true) :
    render strip = .ok () { strip with
      driver := { strip.driver with
        lastFrame := strip.leds
        frames := strip.driver.frames + 1 } } := by
  obtain ⟨running, length, -⟩ := panel.driver initialized
  rw [render_of_initialized initialized]
  exact call_of_ok (Headless.render_of_size running (panel.size_leds.trans length.symm))

/-- What is done to the picture leaves the panel and the driver alone. -/
theorem paint (panel : OnPanel config strip) {edit : Edit Pixmap Unit}
    (grid : Orientation.SameGrid strip.picture.orientation
      (edit.after strip.picture).orientation) :
    OnPanel config ((Strip.paint edit).after strip) := by
  rw [paint_after]
  exact ⟨panel.config_eq, grid.layout.trans panel.layout,
    grid.physicalWidth.trans panel.physicalWidth,
    grid.physicalHeight.trans panel.physicalHeight, panel.driver⟩

end OnPanel

/-- Taking over the settings of a display leaves the panel and the driver alone. -/
theorem OnPanel.configure {config : StripConfig} (panel : OnPanel config strip)
    (display : DisplayConfig) : OnPanel config ((Strip.configure display).after strip) := by
  refine panel.paint ?_
  rw [Edit.after,
    Edit.bind_of_ok (Pixmap.setRotation_degrees display.rotation display.flip strip.picture)]
  exact ⟨rfl, rfl, rfl⟩

/-- **No request takes the picture off its panel**, whether it succeeds or fails. -/
theorem OnPanel.serve {config : StripConfig} (panel : OnPanel config strip)
    (request : Request) : OnPanel config (request.serve strip) := by
  unfold Request.serve
  cases request with
  | init =>
      rw [Request.action, perform]
      cases initialized : strip.initialized with
      | true => rwa [Edit.after_of_ok (init_of_initialized initialized)]
      | false =>
          rw [Edit.after_of_ok (init_of_headless initialized), panel.config_eq]
          exact ⟨rfl, panel.layout, panel.physicalWidth, panel.physicalHeight,
            fun _ => ⟨rfl, rfl, Array.size_replicate⟩⟩
  | render =>
      rw [Request.action, perform]
      cases initialized : strip.initialized with
      | true =>
          rw [Edit.after_of_ok (panel.render_eq initialized)]
          exact ⟨panel.config_eq, panel.layout, panel.physicalWidth, panel.physicalHeight,
            fun _ => ⟨(panel.driver initialized).1, (panel.driver initialized).2.1,
              panel.size_leds⟩⟩
      | false => rwa [Edit.after_of_error (render_of_idle initialized)]
  | wait =>
      rw [Request.action, perform]
      cases initialized : strip.initialized with
      | true =>
          rw [Edit.after, wait_of_initialized initialized]
          exact ⟨panel.config_eq, panel.layout, panel.physicalWidth, panel.physicalHeight,
            panel.driver⟩
      | false => rwa [Edit.after_of_error (wait_of_idle initialized)]
  | uninit =>
      rw [Request.action, perform]
      cases initialized : strip.initialized with
      | true =>
          rw [Edit.after, uninit_of_initialized initialized]
          exact ⟨panel.config_eq, panel.layout, panel.physicalWidth, panel.physicalHeight,
            fun started => absurd started Bool.false_ne_true⟩
      | false => rwa [Edit.after_of_ok (uninit_of_idle initialized)]
  | configure display => exact panel.configure display
  | canvas action => exact panel.paint (Pixmap.sameGrid_perform action strip.picture)

/-- The driver counts the frames that are shown, and a request that gives it no frame leaves
it the one it has. -/
theorem OnPanel.frame_serve {config : StripConfig} (panel : OnPanel config strip)
    (request : Request) :
    (request.serve strip).driver.frames =
        strip.driver.frames + (request.showsFrame strip).toNat ∧
      (request.replacesFrame strip = false →
        (request.serve strip).driver.lastFrame = strip.driver.lastFrame) := by
  unfold Request.serve
  cases request with
  | init =>
      rw [Request.action, perform]
      cases initialized : strip.initialized with
      | true =>
          rw [Edit.after_of_ok (init_of_initialized initialized)]
          exact ⟨rfl, fun _ => rfl⟩
      | false =>
          have started : Request.init.replacesFrame strip = true := by
            rw [Request.replacesFrame, initialized]
            rfl
          rw [Edit.after_of_ok (init_of_headless initialized), started]
          exact ⟨rfl, fun kept => absurd kept.symm Bool.false_ne_true⟩
  | render =>
      rw [Request.action, perform, Request.replacesFrame, Request.showsFrame]
      cases initialized : strip.initialized with
      | true =>
          have shown := panel.render_eq initialized
          rw [Edit.after_of_ok shown, Edit.answer_of_ok shown]
          exact ⟨rfl, fun kept => absurd kept.symm Bool.false_ne_true⟩
      | false =>
          have refused := render_of_idle initialized
          rw [Edit.after_of_error refused, Edit.answer_of_error refused]
          exact ⟨rfl, fun _ => rfl⟩
  | wait =>
      rw [Request.action, perform]
      cases initialized : strip.initialized with
      | true =>
          rw [Edit.after, wait_of_initialized initialized]
          exact ⟨rfl, fun _ => rfl⟩
      | false =>
          rw [Edit.after_of_error (wait_of_idle initialized)]
          exact ⟨rfl, fun _ => rfl⟩
  | uninit =>
      rw [Request.action, perform]
      cases initialized : strip.initialized with
      | true =>
          rw [Edit.after, uninit_of_initialized initialized]
          exact ⟨rfl, fun _ => rfl⟩
      | false =>
          rw [Edit.after_of_ok (uninit_of_idle initialized)]
          exact ⟨rfl, fun _ => rfl⟩
  | configure display =>
      rw [Request.action, perform, Strip.configure, paint_after]
      exact ⟨rfl, fun _ => rfl⟩
  | canvas action =>
      rw [Request.action, perform, paint_after]
      exact ⟨rfl, fun _ => rfl⟩

/-! ## Runs -/

namespace OnPanel

variable {config : StripConfig}

theorem serveAll (panel : OnPanel config strip) (requests : List Request) :
    OnPanel config (Strip.serveAll requests strip) := by
  induction requests generalizing strip with
  | nil => exact panel
  | cons request rest ih => exact ih (panel.serve request)

theorem frames_serveAll (panel : OnPanel config strip) (requests : List Request) :
    (Strip.serveAll requests strip).driver.frames =
      strip.driver.frames + framesShown requests strip := by
  induction requests generalizing strip with
  | nil => rfl
  | cons request rest ih =>
      have first := (panel.frame_serve request).1
      have later := ih (panel.serve request)
      rw [framesShown, ← Nat.add_assoc, ← first, ← later]
      rfl

theorem lastFrame_serveAll (panel : OnPanel config strip) {requests : List Request}
    (kept : KeepsFrame requests strip) :
    (Strip.serveAll requests strip).driver.lastFrame = strip.driver.lastFrame := by
  induction requests generalizing strip with
  | nil => rfl
  | cons request rest ih =>
      have first := (panel.frame_serve request).2 kept.1
      exact (ih (panel.serve request) kept.2).trans first

/-- A logical cell is found in the memory where the orientation puts it, along the wires of
the panel. -/
theorem leds_index (panel : OnPanel config strip) {x y : Nat} (hx : x < strip.width)
    (hy : y < strip.height) :
    ∃ color, strip.picture.pixel x y = .ok color ∧
      strip.leds[strip.picture.orientation.index x y]? = some color ∧
      strip.picture.orientation.index x y =
        Layout.serpentine.index config.width (strip.picture.orientation.physical x y).1
          (strip.picture.orientation.physical x y).2 := by
  have place : strip.picture.orientation.index x y < strip.leds.size := by
    rw [leds, strip.picture.size_memory]
    exact strip.picture.orientation.index_lt hx hy
  refine ⟨strip.picture.colorAt x y, strip.picture.pixel_of_lt hx hy, ?_, ?_⟩
  · rw [Pixmap.colorAt, Array.getD_eq_getD_getElem?]
    rw [leds] at place ⊢
    rw [Array.getElem?_eq_getElem place, Option.getD_some]
  · rw [← panel.layout, ← panel.physicalWidth]
    rfl

end OnPanel

/-- **What the driver receives is what the canvas shows.** Take any strip with a driver that
only records, and any run of requests. The driver has counted exactly the frames that were
shown. If the strip is initialised then a frame, which has the length that the driver expects
and the length of the memory it is copied to, is taken: the driver holds as many colours as
the panel has cells, the memory as callers see it, and every logical cell of the orientation
of the moment where that orientation puts it along the serpentine wires. It holds this frame
through every later run that neither shows a frame nor starts the driver anew, whatever is
painted and however the picture is turned. If the strip is not initialised, nothing is shown
and nothing changes. -/
theorem frames_show_canvas (config : StripConfig) (driver : Headless) (requests : List Request) :
    let start := Strip.new config driver
    let strip := serveAll requests start
    strip.driver.frames = driver.frames + framesShown requests start ∧
    (strip.initialized = true →
      strip.leds.size = strip.driver.frameLength ∧
      strip.leds.size = strip.driver.lastFrame.size ∧
      ∃ shown, render strip = .ok () shown ∧
        shown.picture = strip.picture ∧
        shown.driver.frames = strip.driver.frames + 1 ∧
        shown.driver.lastFrame = shown.leds ∧
        shown.driver.lastFrame.size = config.width * config.height ∧
        (∀ x y : Nat, x < shown.width → y < shown.height →
          ∃ color, shown.picture.pixel x y = .ok color ∧
            shown.driver.lastFrame[shown.picture.orientation.index x y]? = some color ∧
            shown.picture.orientation.index x y =
              Layout.serpentine.index config.width (shown.picture.orientation.physical x y).1
                (shown.picture.orientation.physical x y).2) ∧
        ∀ later, KeepsFrame later shown →
          (serveAll later shown).driver.lastFrame = shown.driver.lastFrame) ∧
    (strip.initialized = false → render strip = .error .notInitialized strip) := by
  intro start strip
  have panel : OnPanel config strip := (onPanel_new config driver).serveAll requests
  refine ⟨(onPanel_new config driver).frames_serveAll requests, fun initialized => ?_,
    render_of_idle⟩
  obtain ⟨-, length, room⟩ := panel.driver initialized
  have size := panel.size_leds
  have ran := panel.render_eq initialized
  refine ⟨size.trans length.symm, size.trans room.symm, _, ran, rfl, rfl, rfl, size,
    fun x y hx hy => panel.leds_index hx hy, fun later kept => ?_⟩
  have shown := panel.serve .render
  rw [Request.serve, Request.action, perform, Edit.after_of_ok ran] at shown
  exact shown.lastFrame_serveAll kept

/-- A panel of three by two cells, turned by a quarter. The upper left logical cell is the last
one of the wire. Painting, turning back and letting go of the driver do not change the frame
that it has taken. -/
theorem frames_show_canvas_turned :
    let requests : List Request := [.render, .init, .configure { rotation := .quarter },
      .canvas (.setPixel 0 0 .pureRed), .canvas (.setPixel 2 0 .white)]
    let later : List Request := [.canvas (.rotate 0 Flip.none), .canvas (.fill .pureBlue),
      .uninit, .render]
    let strip := serveAll requests (Strip.new { width := 3, height := 2 } {})
    strip.initialized = true ∧
      ∃ shown, render strip = .ok () shown ∧ KeepsFrame later shown ∧
        (serveAll later shown).driver.lastFrame = shown.leds ∧
        shown.leds = #[.black, .black, .black, .black, .black, .pureRed] := by
  intro requests later strip
  have initialized : strip.initialized = true := by decide
  obtain ⟨-, law, -⟩ := frames_show_canvas { width := 3, height := 2 } {} requests
  obtain ⟨-, -, shown, ran, -, -, taken, -, -, kept⟩ := law initialized
  have left := Edit.after_of_ok ran
  have quiet : KeepsFrame later shown := by
    rw [← left]
    decide
  refine ⟨initialized, shown, ran, quiet, (kept later quiet).trans taken, ?_⟩
  rw [← left]
  decide

end Strip

end LedMatrix
