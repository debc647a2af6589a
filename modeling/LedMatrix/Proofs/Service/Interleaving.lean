/-
# The timer is invisible to clients

Between the commands of clients the timer renders, as often as it likes and whenever it likes.
Take away all its renderings and no client notices: every command gets the same reply and
leaves the same canvas behind (`SharedCanvas.observed`). Rendering changes the driver, and from
a driver that takes every frame there is no way back into the canvas. So the runs with and
without the timer are both compared with a run on a driver that remembers nothing
(`SharedCanvas.seen`).

What the driver receives is the memory as the commands so far have left it, whoever asks for the
frame (`shownAfter`). Later frames show later memories: no frame is older than the one before.
-/

import LedMatrix.Proofs.Service.Tasks
import LedMatrix.Proofs.Strip.Frames

namespace LedMatrix

/-! ## Canvases without a driver -/

/-- A driver that takes every frame and remembers none. -/
structure Forgetful where

instance : StripDriver Forgetful where
  init _ := pure ()
  render _ := pure ()
  wait := pure ()
  uninit := pure ()

/-- The commands among what happens to a canvas. -/
def Turn.command? : Turn → Option Command
  | .command sent => some sent
  | .tick => none

/-- The commands of a history. -/
def commandsOf (turns : List Turn) : List Command := turns.filterMap Turn.command?

theorem commandsOf_map_command (commands : List Command) :
    commandsOf (commands.map .command) = commands := by
  rw [commandsOf, List.filterMap_map]
  show commands.filterMap some = commands
  exact List.filterMap_some

/-- Whether something asks for a frame. -/
def Turn.isShowing : Turn → Bool
  | .tick | .command .render => true
  | .command _ => false

/-- Whether a task asks for a frame. -/
def Task.isShowing : Task → Bool
  | .present => true
  | _ => false

theorem Command.isShowing_task (command : Command) (background : Color) :
    (command.task background).isShowing = (Turn.command command).isShowing := by
  cases command <;> rfl

/-- For each frame that a history asks for, how many commands there have been before. -/
def shownAfter : List Turn → List Nat
  | [] => []
  | turn :: rest =>
      (if turn.isShowing then [0] else []) ++
        (shownAfter rest).map (· + (commandsOf [turn]).length)

theorem commandsOf_cons (turn : Turn) (rest : List Turn) :
    commandsOf (turn :: rest) = commandsOf [turn] ++ commandsOf rest := by
  rw [← List.singleton_append]
  exact List.filterMap_append

/-- Frames are asked for after more and more commands. -/
theorem pairwise_shownAfter (turns : List Turn) : (shownAfter turns).Pairwise (· ≤ ·) := by
  induction turns with
  | nil => exact .nil
  | cons turn rest ih =>
      have later : ((shownAfter rest).map (· + (commandsOf [turn]).length)).Pairwise (· ≤ ·) :=
        ih.map _ fun _ _ before => Nat.add_le_add_right before _
      rw [shownAfter]
      cases turn.isShowing with
      | true => exact List.pairwise_cons.mpr ⟨fun _ _ => Nat.zero_le _, later⟩
      | false => exact later

theorem le_of_mem_shownAfter {turns : List Turn} {count : Nat} (member : count ∈ shownAfter turns) :
    count ≤ (commandsOf turns).length := by
  induction turns generalizing count with
  | nil => cases member
  | cons turn rest ih =>
      rw [commandsOf_cons, List.length_append]
      rcases List.mem_append.mp member with now | later
      · have none : count = 0 := by
          cases showing : turn.isShowing with
          | true =>
              rw [showing] at now
              exact List.mem_singleton.mp now
          | false =>
              rw [showing] at now
              cases now
        omega
      · obtain ⟨earlier, inside, rfl⟩ := List.mem_map.mp later
        have bound := ih inside
        omega

/-- As many frames are asked for as there are turns that ask for one. -/
theorem length_shownAfter (turns : List Turn) :
    (shownAfter turns).length = turns.countP Turn.isShowing := by
  induction turns with
  | nil => rfl
  | cons turn rest ih =>
      rw [shownAfter, List.length_append, List.length_map, ih, List.countP_cons, Nat.add_comm]
      cases turn.isShowing <;> rfl

/-- What a task asks of the strip. -/
def Task.requests : Task → List Strip.Request
  | .present => [.render]
  | .paint action => [.canvas action]
  | .ask _ | .switch _ => []

namespace SharedCanvas

/-- A canvas as clients see it: everything but the driver. -/
def seen (canvas : SharedCanvas Headless) : SharedCanvas Forgetful where
  strip :=
    { picture := canvas.strip.picture
      config := canvas.strip.config
      driver := {}
      initialized := canvas.strip.initialized }
  autoRender := canvas.autoRender

/-- What clients notice of a history: the reply to each command, and the canvas after it. -/
def observed : List Turn → SharedCanvas Headless → List (Response × SharedCanvas Forgetful)
  | [], _ => []
  | .command command :: rest, canvas =>
      let left := canvas.take (.command command)
      ((canvas.execute command).1, left.seen) :: observed rest left
  | .tick :: rest, canvas => observed rest (canvas.take .tick)

/-- The same without a timer and without a driver. -/
def answered : List Command → SharedCanvas Forgetful → List (Response × SharedCanvas Forgetful)
  | [], _ => []
  | command :: rest, canvas =>
      canvas.execute command :: answered rest (canvas.take (.command command))

/-- The strip takes every frame. -/
structure Ready (config : StripConfig) (canvas : SharedCanvas Headless) : Prop where
  panel : Strip.OnPanel config canvas.strip
  initialized : canvas.strip.initialized = true

/-! ## One turn -/

/-- What a task does to the strip is what it asks of it. -/
theorem strip_eq_serveAll (task : Task) (canvas : SharedCanvas Headless) :
    (canvas.carryOut task).2.strip = Strip.serveAll task.requests canvas.strip := by
  cases task with
  | present =>
      rw [carryOut_present]
      rfl
  | paint action =>
      have painted := Strip.paint_after (Pixmap.perform action) canvas.strip
      show _ = (Strip.paint (Pixmap.perform action)).after canvas.strip
      rw [painted, carryOut, Edit.after]
      cases Pixmap.perform action canvas.strip.picture <;> rfl
  | ask question =>
      rw [carryOut]
      cases question canvas.strip.picture <;> rfl
  | switch enabled => rfl

namespace Ready

variable {config : StripConfig} {canvas : SharedCanvas Headless} (ready : canvas.Ready config)
include ready

/-- Showing the picture succeeds, and the driver has one more frame. -/
theorem render_after : Strip.render.after canvas.strip =
    { canvas.strip with
      driver := { canvas.strip.driver with
        lastFrame := canvas.strip.leds
        frames := canvas.strip.driver.frames + 1 } } :=
  Edit.after_of_ok (ready.panel.render_eq ready.initialized)

/-- The timer shows the picture to the driver and to nobody else. -/
theorem seen_tick : (canvas.take .tick).seen = canvas.seen := by
  rw [take, TimedCanvas.render_eq, ready.render_after]
  rfl

/-- Clients see the same of a command whatever the driver remembers. -/
theorem execute_seen (command : Command) :
    ((canvas.execute command).1, (canvas.execute command).2.seen) =
      canvas.seen.execute command := by
  rw [execute_eq, execute_eq]
  show _ = canvas.seen.carryOut (command.task canvas.strip.picture.background)
  cases command.task canvas.strip.picture.background with
  | present =>
      have shown := ready.panel.render_eq ready.initialized
      have shownBlind : Strip.render canvas.seen.strip = .ok () canvas.seen.strip :=
        Strip.render_of_initialized ready.initialized
      rw [carryOut, carryOut, Edit.bind_of_ok shown, Edit.bind_of_ok shownBlind]
      rfl
  | paint action =>
      show _ = canvas.seen.settlePicture (Pixmap.perform action canvas.strip.picture)
      rw [carryOut]
      cases Pixmap.perform action canvas.strip.picture <;> rfl
  | ask question =>
      show _ = canvas.seen.settleQuestion (question canvas.strip.picture)
      rw [carryOut]
      cases question canvas.strip.picture <;> rfl
  | switch enabled => rfl

theorem seen_command (command : Command) :
    (canvas.take (.command command)).seen = canvas.seen.take (.command command) :=
  congrArg Prod.snd (ready.execute_seen command)

/-- No turn takes the canvas off its panel or lets go of the driver. -/
theorem take (turn : Turn) : (canvas.take turn).Ready config := by
  cases turn with
  | tick =>
      have panel := ready.panel.serve .render
      rw [Strip.Request.serve, Strip.Request.action, Strip.perform] at panel
      rw [SharedCanvas.take, TimedCanvas.render_eq]
      apply Ready.mk panel
      rw [ready.render_after]
      exact ready.initialized
  | command command =>
      obtain ⟨driver, left⟩ :=
        strip_carryOut (command.task canvas.strip.picture.background) canvas
      rw [SharedCanvas.take, execute_eq]
      constructor
      · rw [strip_eq_serveAll]
        exact ready.panel.serveAll _
      · rw [left]
        exact ready.initialized

/-- The driver after a task. Only showing the picture reaches it. -/
theorem driver_carryOut (task : Task) :
    (canvas.carryOut task).2.strip.driver =
      if task.isShowing then
        { canvas.strip.driver with
          lastFrame := canvas.strip.leds
          frames := canvas.strip.driver.frames + 1 }
      else canvas.strip.driver := by
  rw [strip_eq_serveAll]
  cases task with
  | present =>
      show (Strip.render.after canvas.strip).driver = _
      rw [ready.render_after]
      rfl
  | paint action =>
      show ((Strip.paint (Pixmap.perform action)).after canvas.strip).driver = canvas.strip.driver
      rw [Strip.paint_after]
  | ask question => rfl
  | switch enabled => rfl

/-- A turn that asks for a frame gives the driver the memory; no other turn reaches it. -/
theorem driver_take (turn : Turn) :
    (canvas.take turn).strip.driver =
      if turn.isShowing then
        { canvas.strip.driver with
          lastFrame := canvas.strip.leds
          frames := canvas.strip.driver.frames + 1 }
      else canvas.strip.driver := by
  cases turn with
  | tick =>
      rw [SharedCanvas.take, TimedCanvas.render_eq, ready.render_after]
      rfl
  | command command =>
      rw [SharedCanvas.take, execute_eq, ready.driver_carryOut, command.isShowing_task]

end Ready

/-! ## Histories -/

variable {config : StripConfig} {canvas : SharedCanvas Headless}

/-- **At every moment a canvas looks as if there had been commands only.** -/
theorem Ready.seen_takeAll (ready : canvas.Ready config) (turns : List Turn) :
    (takeAll turns canvas).seen = takeAll ((commandsOf turns).map .command) canvas.seen := by
  induction turns generalizing canvas with
  | nil => rfl
  | cons turn rest ih =>
      have later := ih (ready.take turn)
      cases turn with
      | tick =>
          rw [ready.seen_tick] at later
          exact later
      | command command =>
          rw [ready.seen_command command] at later
          exact later

/-- What clients notice is what they would notice without a timer. -/
theorem Ready.observed_eq (ready : canvas.Ready config) (turns : List Turn) :
    observed turns canvas = answered (commandsOf turns) canvas.seen := by
  induction turns generalizing canvas with
  | nil => rfl
  | cons turn rest ih =>
      have later := ih (ready.take turn)
      cases turn with
      | tick =>
          rw [ready.seen_tick] at later
          exact later
      | command command =>
          rw [ready.seen_command command] at later
          show ((canvas.execute command).1, (canvas.execute command).2.seen) ::
            observed rest (canvas.take (.command command)) =
              canvas.seen.execute command ::
                answered (commandsOf rest) (canvas.seen.take (.command command))
          rw [ready.execute_seen command, later]

/-! ## Frames -/

/-- The frames that the driver receives between two states, of which it counts one at most. -/
def received (before after : SharedCanvas Headless) : List (Array Color) :=
  if after.strip.driver.frames = before.strip.driver.frames then []
  else [after.strip.driver.lastFrame]

/-- The frames that the driver receives in a history, in their order. -/
def framesOf : List Turn → SharedCanvas Headless → List (Array Color)
  | [], _ => []
  | turn :: rest, canvas =>
      received canvas (canvas.take turn) ++ framesOf rest (canvas.take turn)

theorem Ready.received_take (ready : canvas.Ready config) (turn : Turn) :
    received canvas (canvas.take turn) =
      if turn.isShowing then [canvas.strip.leds] else [] := by
  rw [received, ready.driver_take]
  cases turn.isShowing with
  | true =>
      apply if_neg
      exact Nat.succ_ne_self _
  | false => exact if_pos rfl

/-- The memory after some commands. -/
def memoryAfter {δ : Type} [StripDriver δ] (commands : List Command) (canvas : SharedCanvas δ) :
    Array Color := (takeAll (commands.map .command) canvas).strip.leds

/-- The driver may be left out when a memory is worked out. -/
theorem Ready.memoryAfter_eq (ready : canvas.Ready config) (commands : List Command) :
    memoryAfter commands canvas = memoryAfter commands canvas.seen := by
  have seen := ready.seen_takeAll (commands.map .command)
  rw [commandsOf_map_command] at seen
  exact congrArg (fun left : SharedCanvas Forgetful => left.strip.leds) seen

/-- The frames of a history are memories after the commands that came before. -/
theorem Ready.framesOf_eq (ready : canvas.Ready config) (turns : List Turn) :
    framesOf turns canvas = (shownAfter turns).map fun count =>
      memoryAfter ((commandsOf turns).take count) canvas.seen := by
  induction turns generalizing canvas with
  | nil => rfl
  | cons turn rest ih =>
      -- What is left to be done begins with the canvas that this turn leaves.
      have next (count : Nat) :
          memoryAfter ((commandsOf (turn :: rest)).take (count + (commandsOf [turn]).length))
              canvas.seen =
            memoryAfter ((commandsOf rest).take count) (canvas.take turn).seen := by
        cases turn with
        | tick =>
            rw [ready.seen_tick]
            rfl
        | command command =>
            rw [ready.seen_command command]
            rfl
      rw [framesOf, ready.received_take, ih (ready.take turn), shownAfter, List.map_append,
        List.map_map]
      congr 1
      · cases turn.isShowing <;> rfl
      · exact List.map_congr_left fun count _ => (next count).symm

/-- **The timer is invisible to clients.** Take any canvas on an initialised strip whose driver
only records, and any history of commands between which the timer renders however often. Every
command gets the reply, and leaves behind the picture, the settings and the flags, that it would
get and leave behind had the timer never rendered. Every frame that the driver receives, from
the timer or from a command to render, is the memory as the commands up to that moment leave it
without the timer. These are more and more commands from frame to frame, and there is one frame
for each rendering of either kind. -/
theorem timer_invisible (config : StripConfig) (driver : Headless)
    (requests : List Strip.Request) (autoRender : Bool) (turns : List Turn)
    (initialized : (Strip.serveAll requests (Strip.new config driver)).initialized = true) :
    let start : SharedCanvas Headless :=
      { strip := Strip.serveAll requests (Strip.new config driver), autoRender }
    let undisturbed := (commandsOf turns).map Turn.command
    observed turns start = observed undisturbed start ∧
    framesOf turns start = (shownAfter turns).map (fun count =>
      (takeAll (undisturbed.take count) start).strip.leds) ∧
    (shownAfter turns).Pairwise (· ≤ ·) ∧
    (∀ count ∈ shownAfter turns, count ≤ undisturbed.length) ∧
    (framesOf turns start).length = turns.countP Turn.isShowing := by
  intro start undisturbed
  have panel := (Strip.onPanel_new config driver).serveAll requests
  have ready : start.Ready config := ⟨panel, initialized⟩
  have frames : framesOf turns start = (shownAfter turns).map (fun count =>
      (takeAll (undisturbed.take count) start).strip.leds) := by
    rw [ready.framesOf_eq]
    apply List.map_congr_left
    intro count _
    rw [← ready.memoryAfter_eq, memoryAfter, List.map_take]
  refine ⟨?_, frames, pairwise_shownAfter turns, ?_, ?_⟩
  · rw [ready.observed_eq, ready.observed_eq, commandsOf_map_command]
  · intro count member
    rw [List.length_map]
    exact le_of_mem_shownAfter member
  · rw [frames, List.length_map, length_shownAfter]

/-- The timer renders before, between and after two cells are coloured, and a client renders
once. The frames show no cell, one cell, both cells, and both cells again. -/
theorem timer_invisible_two_cells :
    let requests : List Strip.Request := [.init]
    let turns : List Turn :=
      [.tick, .command (.drawPixel 0 0 .pureRed), .tick, .command (.drawPixel 1 0 .white),
        .command .render, .tick]
    let start : SharedCanvas Headless :=
      { strip := Strip.serveAll requests (Strip.new { width := 2, height := 1 } {}) }
    start.strip.initialized = true ∧
      (observed turns start).map Prod.fst = [.done, .done, .done] ∧
      framesOf turns start =
        [#[.black, .black], #[.pureRed, .black], #[.pureRed, .white], #[.pureRed, .white]] := by
  intro requests turns start
  have initialized : start.strip.initialized = true := by decide
  obtain ⟨same, frames, -⟩ :=
    timer_invisible { width := 2, height := 1 } {} requests false turns initialized
  refine ⟨initialized, ?_, ?_⟩
  · rw [same]
    decide
  · rw [frames]
    decide

end SharedCanvas

end LedMatrix
