/-
# Automatic rendering

Beside the commands runs a timer that shows the picture from time to time while
its switch is on. The timer and the clients act in turns that nobody controls,
so the timer is described by the steps that cannot be divided: a look at one of
the two flags, a pause, and one rendering. Between any two of its steps anything
may happen to the canvas.

Failures to render are nobody's business here; the timer tries again.
-/

import LedMatrix.Service

namespace LedMatrix

/-- What the timer does next. -/
inductive TimerPhase where
  /-- Look whether it has to end, before it pauses. -/
  | entering
  /-- Pause. -/
  | parked
  /-- Look whether it has to end, after it has paused. -/
  | woken
  /-- Look whether the switch is on. -/
  | checking
  /-- Render. -/
  | committed
  /-- Nothing any more. -/
  | ended
  deriving DecidableEq

/-- A shared canvas with its timer. -/
structure TimedCanvas (δ : Type) where
  canvas : SharedCanvas δ
  /-- Whether the timer has been told to end. -/
  shutdown : Bool := false
  phase : TimerPhase := .entering

namespace TimedCanvas

variable {δ : Type} [StripDriver δ]

/-- Render once, whatever comes of it. -/
def render (canvas : SharedCanvas δ) : SharedCanvas δ :=
  match Strip.render canvas.strip with
  | .ok _ strip | .error _ strip => { canvas with strip }

/-- One step of the timer. -/
def step (timed : TimedCanvas δ) : TimedCanvas δ :=
  match timed.phase with
  | .entering => { timed with phase := if timed.shutdown then .ended else .parked }
  | .parked => { timed with phase := .woken }
  | .woken => { timed with phase := if timed.shutdown then .ended else .checking }
  | .checking => { timed with phase := if timed.canvas.autoRender then .committed else .entering }
  | .committed => { timed with canvas := render timed.canvas, phase := .entering }
  | .ended => timed

/-- Several steps of the timer. -/
def steps : (count : Nat) → TimedCanvas δ → TimedCanvas δ
  | 0, timed => timed
  | count + 1, timed => steps count timed.step

/-- A command from a client, as one step. -/
def execute (command : Command) (timed : TimedCanvas δ) : Response × TimedCanvas δ :=
  let (response, canvas) := timed.canvas.execute command
  (response, { timed with canvas })

/-- How many steps take the timer from any phase to its end once it has been
told to end. -/
def stepsToEnd : Nat := 3

/-- Tell the timer to end, wait until it has, and give up the strip. -/
def close (timed : TimedCanvas δ) : TimedCanvas δ :=
  let timed := steps stepsToEnd { timed with shutdown := true }
  { timed with canvas := { timed.canvas with strip := timed.canvas.strip.release } }

end TimedCanvas

end LedMatrix
