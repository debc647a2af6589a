/-
# The life cycle of a driver

Whatever is asked of a strip and however its driver answers, the driver is used in
sessions. A session begins with an initialisation that succeeds and ends with the driver
being let go, whether or not that succeeds, and in between frames are shown and waited for.
Outside of sessions there is nothing but initialisations that fail.

`Watched` stands in front of a driver and writes down its calls with their outcomes. It
changes nothing else (`run_unwatch`), so its log is what the driver behind it has been
asked. `IsSessions` and `InSession` say which logs end outside and inside of a session, and
the flag of the strip tells the two apart (`Lawful`). Every request keeps it that way, and
giving up the strip ends the session that is open.
-/

import LedMatrix.Proofs.Edit
import LedMatrix.Strip.Basic

namespace LedMatrix

/-! ## Watching a driver -/

/-- A call of a driver and whether it has succeeded. -/
structure Outcome where
  call : DriverCall
  succeeded : Bool
  deriving DecidableEq

/-- A driver whose calls are written down, the first one first. -/
structure Watched (δ : Type) where
  inner : δ
  log : List Outcome := []

namespace Watched

variable {δ : Type}

/-- Pass a call on and write down how it went. -/
def pass (call : DriverCall) (edit : Edit δ Unit) : Edit (Watched δ) Unit := fun driver =>
  match edit driver.inner with
  | .ok answer inner => .ok answer { inner, log := driver.log ++ [⟨call, true⟩] }
  | .error cause inner => .error cause { inner, log := driver.log ++ [⟨call, false⟩] }

theorem pass_of_ok {call : DriverCall} {edit : Edit δ Unit} {driver : Watched δ} {inner : δ}
    (ran : edit driver.inner = .ok () inner) :
    pass call edit driver = .ok () { inner, log := driver.log ++ [⟨call, true⟩] } := by
  rw [pass, ran]

theorem pass_of_error {call : DriverCall} {edit : Edit δ Unit} {driver : Watched δ}
    {cause : CanvasError} {inner : δ} (ran : edit driver.inner = .error cause inner) :
    pass call edit driver = .error cause { inner, log := driver.log ++ [⟨call, false⟩] } := by
  rw [pass, ran]

instance [StripDriver δ] : StripDriver (Watched δ) where
  init config := pass .init (StripDriver.init config)
  render frame := pass .render (StripDriver.render frame)
  wait := pass .wait StripDriver.wait
  uninit := pass .uninit StripDriver.uninit

end Watched

/-! ## Sessions -/

/-- A frame is shown or waited for. -/
def Outcome.IsUse (one : Outcome) : Prop := one.call = .render ∨ one.call = .wait

/-- A stretch of calls that begins and ends with the driver at rest. -/
inductive Session : List Outcome → Prop
  /-- The driver could not be initialised. -/
  | refused : Session [⟨.init, false⟩]
  /-- The driver was initialised, used and let go. -/
  | completed (used : List Outcome) (within : ∀ one ∈ used, one.IsUse) (released : Bool) :
      Session (⟨.init, true⟩ :: used ++ [⟨.uninit, released⟩])

/-- One session after the other. -/
def IsSessions (log : List Outcome) : Prop :=
  ∃ sessions : List (List Outcome), (∀ session ∈ sessions, Session session) ∧
    log = sessions.flatten

/-- A session has begun and not ended. -/
def InSession (log : List Outcome) : Prop :=
  ∃ earlier used, IsSessions earlier ∧ (∀ one ∈ used, one.IsUse) ∧
    log = earlier ++ ⟨.init, true⟩ :: used

theorem isSessions_nil : IsSessions [] := ⟨[], nofun, rfl⟩

theorem IsSessions.append {log session : List Outcome} (sessions : IsSessions log)
    (next : Session session) : IsSessions (log ++ session) := by
  obtain ⟨earlier, all, rfl⟩ := sessions
  refine ⟨earlier ++ [session], ?_, by simp⟩
  exact List.forall_mem_append.mpr ⟨all, List.forall_mem_singleton.mpr next⟩

theorem IsSessions.inSession {log : List Outcome} (sessions : IsSessions log) :
    InSession (log ++ [⟨.init, true⟩]) := ⟨log, [], sessions, nofun, rfl⟩

theorem InSession.use {log : List Outcome} (session : InSession log) {one : Outcome}
    (use : one.IsUse) : InSession (log ++ [one]) := by
  obtain ⟨earlier, used, sessions, within, rfl⟩ := session
  refine ⟨earlier, used ++ [one], sessions, ?_, by simp⟩
  exact List.forall_mem_append.mpr ⟨within, List.forall_mem_singleton.mpr use⟩

theorem InSession.isSessions {log : List Outcome} (session : InSession log) (released : Bool) :
    IsSessions (log ++ [⟨.uninit, released⟩]) := by
  obtain ⟨earlier, used, sessions, within, rfl⟩ := session
  have whole := sessions.append (.completed used within released)
  simpa using whole

/-- How many sessions have begun but not ended. -/
def openSessions (log : List Outcome) : Int :=
  log.countP (· = ⟨.init, true⟩) - log.countP (·.call = .uninit)

theorem openSessions_append (earlier later : List Outcome) :
    openSessions (earlier ++ later) = openSessions earlier + openSessions later := by
  simp only [openSessions, List.countP_append]
  omega

theorem openSessions_used {used : List Outcome} (within : ∀ one ∈ used, one.IsUse) :
    openSessions used = 0 := by
  have unbegun : used.countP (· = ⟨.init, true⟩) = 0 := by
    rw [List.countP_eq_zero]
    intro one member begun
    rcases within one member with shown | waited <;> simp_all
  have unended : used.countP (·.call = .uninit) = 0 := by
    rw [List.countP_eq_zero]
    intro one member ended
    rcases within one member with shown | waited <;> simp_all
  rw [openSessions, unbegun, unended]
  rfl

theorem IsSessions.openSessions_eq {log : List Outcome} (sessions : IsSessions log) :
    openSessions log = 0 := by
  obtain ⟨all, each, rfl⟩ := sessions
  induction all with
  | nil => rfl
  | cons session rest ih =>
      have first : openSessions session = 0 := by
        cases each session List.mem_cons_self with
        | refused => rfl
        | completed used within released =>
            have begun : openSessions [⟨.init, true⟩] = 1 := rfl
            have ended : openSessions [⟨.uninit, released⟩] = -1 := by cases released <;> rfl
            rw [← List.singleton_append, openSessions_append, openSessions_append,
              openSessions_used within, begun, ended]
            rfl
      rw [List.flatten_cons, openSessions_append, first,
        ih fun one member => each one (List.mem_cons_of_mem session member)]
      rfl

theorem InSession.openSessions_eq {log : List Outcome} (session : InSession log) :
    openSessions log = 1 := by
  obtain ⟨earlier, used, sessions, within, rfl⟩ := session
  have begun : openSessions [⟨.init, true⟩] = 1 := rfl
  rw [← List.singleton_append, openSessions_append, openSessions_append,
    sessions.openSessions_eq, openSessions_used within, begun]
  rfl

/-- No log ends both inside and outside of a session. -/
theorem InSession.not_isSessions {log : List Outcome} (session : InSession log) :
    ¬ IsSessions log := by
  intro sessions
  have one := session.openSessions_eq
  rw [sessions.openSessions_eq] at one
  cases one

namespace Strip

variable {δ : Type}

/-! ## What the requests do -/

theorem call_of_ok {edit : Edit δ Unit} {strip : Strip δ} {driver : δ}
    (ran : edit strip.driver = .ok () driver) : call edit strip = .ok () { strip with driver } := by
  rw [call, Edit.within, ran]

theorem call_of_error {edit : Edit δ Unit} {strip : Strip δ} {cause : CanvasError} {driver : δ}
    (ran : edit strip.driver = .error cause driver) :
    call edit strip = .error cause { strip with driver } := by
  rw [call, Edit.within, ran]

section Requests

variable [StripDriver δ] {strip : Strip δ}

/-- A driver that is initialised is not initialised again. -/
theorem init_of_initialized (initialized : strip.initialized = true) :
    init strip = .ok () strip := by
  refine (Edit.get_bind _ strip).trans ?_
  rw [initialized]
  rfl

theorem init_of_ok (idle : strip.initialized = false) {driver : δ}
    (ran : StripDriver.init strip.config strip.driver = .ok () driver) :
    init strip = .ok () { strip with driver, initialized := true } := by
  refine (Edit.get_bind _ strip).trans ?_
  rw [idle]
  exact Edit.bind_of_ok (call_of_ok ran)

theorem init_of_error (idle : strip.initialized = false) {cause : CanvasError} {driver : δ}
    (ran : StripDriver.init strip.config strip.driver = .error cause driver) :
    init strip = .error cause { strip with driver } := by
  refine (Edit.get_bind _ strip).trans ?_
  have failed := call_of_error ran
  rw [idle] at failed ⊢
  exact Edit.bind_of_error failed

/-- Nothing is shown on a driver that is not initialised. -/
theorem render_of_idle (idle : strip.initialized = false) :
    render strip = .error .notInitialized strip := by
  refine (Edit.get_bind _ strip).trans ?_
  rw [idle]
  rfl

theorem render_of_initialized (initialized : strip.initialized = true) :
    render strip = call (StripDriver.render strip.leds) strip := by
  refine (Edit.get_bind _ strip).trans ?_
  rw [initialized]
  rfl

/-- A driver that is not initialised is not waited for. -/
theorem wait_of_idle (idle : strip.initialized = false) :
    wait strip = .error .notInitialized strip := by
  refine (Edit.get_bind _ strip).trans ?_
  rw [idle]
  rfl

theorem wait_of_initialized (initialized : strip.initialized = true) :
    wait strip = call StripDriver.wait strip := by
  refine (Edit.get_bind _ strip).trans ?_
  rw [initialized]
  rfl

/-- A driver that is not initialised is not let go. -/
theorem uninit_of_idle (idle : strip.initialized = false) : uninit strip = .ok () strip := by
  refine (Edit.get_bind _ strip).trans ?_
  rw [idle]
  rfl

/-- The strip counts as idle before the driver is let go. -/
theorem uninit_of_initialized (initialized : strip.initialized = true) :
    uninit strip = call StripDriver.uninit { strip with initialized := false } := by
  refine (Edit.get_bind _ strip).trans ?_
  rw [initialized]
  rfl

end Requests

/-- Painting succeeds or fails, and touches nothing but the picture. -/
theorem paint_after (edit : Edit Pixmap Unit) (strip : Strip δ) :
    (paint edit).after strip = { strip with picture := edit.after strip.picture } := by
  unfold paint Edit.within Edit.after
  dsimp only
  cases edit strip.picture <;> rfl

/-! ## The log -/

/-- A call is written down and leaves the flag as it is. -/
theorem after_call (name : DriverCall) (edit : Edit δ Unit) (strip : Strip (Watched δ)) :
    ∃ inner succeeded, (call (Watched.pass name edit)).after strip =
      { strip with driver := { inner, log := strip.driver.log ++ [⟨name, succeeded⟩] } } := by
  cases ran : edit strip.driver.inner with
  | ok answer inner =>
      exact ⟨inner, true, Edit.after_of_ok (call_of_ok (Watched.pass_of_ok ran))⟩
  | error cause inner =>
      exact ⟨inner, false, Edit.after_of_error (call_of_error (Watched.pass_of_error ran))⟩

/-- Forget what has been written down. -/
def unwatch (strip : Strip (Watched δ)) : Strip δ where
  picture := strip.picture
  config := strip.config
  driver := strip.driver.inner
  initialized := strip.initialized

/-- Forget what has been written down, in an outcome of a request. -/
def forget : EStateM.Result CanvasError (Strip (Watched δ)) Unit →
    EStateM.Result CanvasError (Strip δ) Unit
  | .ok answer left => .ok answer left.unwatch
  | .error cause left => .error cause left.unwatch

theorem call_unwatch (name : DriverCall) (edit : Edit δ Unit) (strip : Strip (Watched δ)) :
    call edit strip.unwatch = forget (call (Watched.pass name edit) strip) := by
  cases ran : edit strip.driver.inner with
  | ok answer inner =>
      rw [call_of_ok (Watched.pass_of_ok ran)]
      exact call_of_ok ran
  | error cause inner =>
      rw [call_of_error (Watched.pass_of_error ran)]
      exact call_of_error ran

theorem paint_unwatch (edit : Edit Pixmap Unit) (strip : Strip (Watched δ)) :
    paint edit strip.unwatch = forget (paint edit strip) := by
  unfold paint Edit.within
  dsimp only [unwatch]
  cases edit strip.picture <;> rfl

/-- The flag says whether a session is open. -/
structure Lawful (strip : Strip (Watched δ)) : Prop where
  inSession : strip.initialized = true → InSession strip.driver.log
  isSessions : strip.initialized = false → IsSessions strip.driver.log

theorem Lawful.of_initialized {strip : Strip (Watched δ)} (initialized : strip.initialized = true)
    (session : InSession strip.driver.log) : strip.Lawful where
  inSession _ := session
  isSessions idle := absurd (idle.symm.trans initialized) Bool.false_ne_true

theorem Lawful.of_idle {strip : Strip (Watched δ)} (idle : strip.initialized = false)
    (sessions : IsSessions strip.driver.log) : strip.Lawful where
  inSession initialized := absurd (idle.symm.trans initialized) Bool.false_ne_true
  isSessions _ := sessions

/-- A strip that goes by the life cycle counts as initialised exactly within a session. -/
theorem Lawful.initialized_iff {strip : Strip (Watched δ)} (lawful : strip.Lawful) :
    strip.initialized = true ↔ InSession strip.driver.log := by
  refine ⟨lawful.inSession, fun session => ?_⟩
  cases initialized : strip.initialized with
  | true => rfl
  | false => exact absurd (lawful.isSessions initialized) session.not_isSessions

theorem Lawful.idle_iff {strip : Strip (Watched δ)} (lawful : strip.Lawful) :
    strip.initialized = false ↔ IsSessions strip.driver.log := by
  refine ⟨lawful.isSessions, fun sessions => ?_⟩
  cases initialized : strip.initialized with
  | true => exact absurd sessions (lawful.inSession initialized).not_isSessions
  | false => rfl

/-- The driver is used within a session. -/
theorem Lawful.call {strip : Strip (Watched δ)} (lawful : strip.Lawful)
    (initialized : strip.initialized = true) {name : DriverCall}
    (use : name = .render ∨ name = .wait) (edit : Edit δ Unit) :
    ((Strip.call (Watched.pass name edit)).after strip).Lawful := by
  have session := lawful.inSession initialized
  obtain ⟨inner, succeeded, left⟩ := after_call name edit strip
  rw [left]
  exact .of_initialized initialized (session.use use)

/-! ## Requests and runs -/

/-- What callers can ask of a strip. -/
inductive Action where
  | init
  | render
  | wait
  | uninit
  | configure (display : DisplayConfig)
  /-- Anything at all that is done to the picture. -/
  | paint (edit : Edit Pixmap Unit)

variable [StripDriver δ]

/-- Do what is asked. -/
def perform : Action → Edit (Strip δ) Unit
  | .init => init
  | .render => render
  | .wait => wait
  | .uninit => uninit
  | .configure display => configure display
  | .paint edit => paint edit

/-- A new strip after a run of requests. -/
def run (config : StripConfig) (driver : δ) (actions : List Action) : Strip δ :=
  Edit.afterAll (actions.map perform) (Strip.new config driver)

/-- The calls that the driver of a strip gets in a run of requests. -/
def calls (config : StripConfig) (driver : δ) (actions : List Action) : List Outcome :=
  (run config ({ inner := driver } : Watched δ) actions).driver.log

/-- The same when the strip is given up at the end. -/
def callsWithRelease (config : StripConfig) (driver : δ) (actions : List Action) : List Outcome :=
  (run config ({ inner := driver } : Watched δ) actions).release.driver.log

/-- The request needs no call of the driver, for a strip that is initialised or not. -/
def Action.silent (initialized : Bool) : Action → Bool
  | .init => initialized
  | .render => !initialized
  | .wait => !initialized
  | .uninit => !initialized
  | .configure _ => true
  | .paint _ => true

/-! ## Watching changes nothing -/

/-- A strip with a watched driver answers as it would with the driver alone. -/
theorem perform_unwatch (action : Action) (strip : Strip (Watched δ)) :
    perform action strip.unwatch = forget (perform action strip) := by
  have same : strip.unwatch.initialized = strip.initialized := rfl
  cases action with
  | init =>
      rw [perform, perform]
      cases initialized : strip.initialized with
      | true =>
          rw [init_of_initialized initialized, init_of_initialized (same.trans initialized)]
          rfl
      | false =>
          have idle := same.trans initialized
          cases ran : StripDriver.init strip.config strip.driver.inner with
          | ok answer inner =>
              rw [init_of_ok initialized (Watched.pass_of_ok ran)]
              exact init_of_ok idle ran
          | error cause inner =>
              rw [init_of_error initialized (Watched.pass_of_error ran)]
              exact init_of_error idle ran
  | render =>
      rw [perform, perform]
      cases initialized : strip.initialized with
      | true =>
          rw [render_of_initialized initialized, render_of_initialized (same.trans initialized)]
          exact call_unwatch .render (StripDriver.render strip.leds) strip
      | false =>
          rw [render_of_idle initialized, render_of_idle (same.trans initialized)]
          rfl
  | wait =>
      rw [perform, perform]
      cases initialized : strip.initialized with
      | true =>
          rw [wait_of_initialized initialized, wait_of_initialized (same.trans initialized)]
          exact call_unwatch .wait StripDriver.wait strip
      | false =>
          rw [wait_of_idle initialized, wait_of_idle (same.trans initialized)]
          rfl
  | uninit =>
      rw [perform, perform]
      cases initialized : strip.initialized with
      | true =>
          rw [uninit_of_initialized initialized, uninit_of_initialized (same.trans initialized)]
          exact call_unwatch .uninit StripDriver.uninit { strip with initialized := false }
      | false =>
          rw [uninit_of_idle initialized, uninit_of_idle (same.trans initialized)]
          rfl
  | configure display => exact paint_unwatch _ strip
  | paint edit => exact paint_unwatch edit strip

theorem after_unwatch (action : Action) (strip : Strip (Watched δ)) :
    (perform action).after strip.unwatch = ((perform action).after strip).unwatch := by
  rw [Edit.after, perform_unwatch, Edit.after]
  cases perform action strip <;> rfl

theorem afterAll_unwatch (actions : List Action) (strip : Strip (Watched δ)) :
    Edit.afterAll (actions.map perform) strip.unwatch =
      (Edit.afterAll (actions.map perform) strip).unwatch := by
  induction actions generalizing strip with
  | nil => rfl
  | cons action rest ih =>
      have step := after_unwatch action strip
      exact (congrArg (Edit.afterAll (rest.map perform)) step).trans (ih _)

/-- **Watching a driver changes nothing** but the log. -/
theorem run_unwatch (config : StripConfig) (driver : δ) (actions : List Action) :
    (run config ({ inner := driver } : Watched δ) actions).unwatch = run config driver actions :=
  (afterAll_unwatch actions (Strip.new config { inner := driver })).symm

/-! ## Every request keeps to the life cycle -/

/-- A request that needs no call leaves the driver alone. -/
theorem after_of_silent {action : Action} {strip : Strip δ}
    (silent : action.silent strip.initialized = true) :
    ((perform action).after strip).driver = strip.driver ∧
      ((perform action).after strip).initialized = strip.initialized := by
  cases action with
  | init =>
      rw [perform, Edit.after_of_ok (init_of_initialized silent)]
      exact ⟨rfl, rfl⟩
  | render =>
      have idle : strip.initialized = false := by simpa [Action.silent] using silent
      rw [perform, Edit.after_of_error (render_of_idle idle)]
      exact ⟨rfl, rfl⟩
  | wait =>
      have idle : strip.initialized = false := by simpa [Action.silent] using silent
      rw [perform, Edit.after_of_error (wait_of_idle idle)]
      exact ⟨rfl, rfl⟩
  | uninit =>
      have idle : strip.initialized = false := by simpa [Action.silent] using silent
      rw [perform, Edit.after_of_ok (uninit_of_idle idle)]
      exact ⟨rfl, rfl⟩
  | configure display =>
      rw [perform, configure, paint_after]
      exact ⟨rfl, rfl⟩
  | paint edit =>
      rw [perform, paint_after]
      exact ⟨rfl, rfl⟩

theorem release_eq_after (strip : Strip δ) : strip.release = uninit.after strip := by
  unfold release Edit.after
  cases uninit strip <;> rfl

variable {strip : Strip (Watched δ)}

theorem Lawful.init (lawful : strip.Lawful) : (Strip.init.after strip).Lawful := by
  cases initialized : strip.initialized with
  | true => rwa [Edit.after_of_ok (init_of_initialized initialized)]
  | false =>
      have sessions := lawful.isSessions initialized
      cases ran : StripDriver.init strip.config strip.driver.inner with
      | ok answer inner =>
          rw [Edit.after_of_ok (init_of_ok initialized (Watched.pass_of_ok ran))]
          exact .of_initialized rfl sessions.inSession
      | error cause inner =>
          rw [Edit.after_of_error (init_of_error initialized (Watched.pass_of_error ran))]
          exact .of_idle initialized (sessions.append .refused)

theorem Lawful.render (lawful : strip.Lawful) : (Strip.render.after strip).Lawful := by
  cases initialized : strip.initialized with
  | true =>
      rw [Edit.after, render_of_initialized initialized]
      exact lawful.call initialized (.inl rfl) (StripDriver.render strip.leds)
  | false => rwa [Edit.after_of_error (render_of_idle initialized)]

theorem Lawful.wait (lawful : strip.Lawful) : (Strip.wait.after strip).Lawful := by
  cases initialized : strip.initialized with
  | true =>
      rw [Edit.after, wait_of_initialized initialized]
      exact lawful.call initialized (.inr rfl) StripDriver.wait
  | false => rwa [Edit.after_of_error (wait_of_idle initialized)]

/-- Letting go of a driver is one call, whether or not it succeeds. -/
theorem uninit_after (initialized : strip.initialized = true) :
    ∃ inner released, Strip.uninit.after strip =
      { strip with
        initialized := false
        driver := { inner, log := strip.driver.log ++ [⟨.uninit, released⟩] } } := by
  obtain ⟨inner, released, left⟩ :=
    after_call .uninit StripDriver.uninit { strip with initialized := false }
  refine ⟨inner, released, ?_⟩
  rw [Edit.after, uninit_of_initialized initialized]
  exact left

/-- After letting go, the strip is idle and all sessions have ended. -/
theorem Lawful.uninit (lawful : strip.Lawful) :
    (Strip.uninit.after strip).Lawful ∧ (Strip.uninit.after strip).initialized = false := by
  cases initialized : strip.initialized with
  | true =>
      have session := lawful.inSession initialized
      obtain ⟨inner, released, gone⟩ := uninit_after initialized
      rw [gone]
      exact ⟨.of_idle rfl (session.isSessions released), rfl⟩
  | false =>
      rw [Edit.after_of_ok (uninit_of_idle initialized)]
      exact ⟨lawful, initialized⟩

/-- **No request breaks the life cycle**, whether it succeeds or fails. -/
theorem Lawful.perform (lawful : strip.Lawful) (action : Action) :
    ((Strip.perform action).after strip).Lawful := by
  have painted (edit : Edit Pixmap Unit) : ((Strip.paint edit).after strip).Lawful := by
    rw [paint_after]
    exact ⟨lawful.inSession, lawful.isSessions⟩
  cases action with
  | init => exact lawful.init
  | render => exact lawful.render
  | wait => exact lawful.wait
  | uninit => exact lawful.uninit.1
  | configure display => exact painted _
  | paint edit => exact painted edit

theorem lawful_run (config : StripConfig) (driver : δ) (actions : List Action) :
    (run config ({ inner := driver } : Watched δ) actions).Lawful := by
  have start : (Strip.new config ({ inner := driver } : Watched δ)).Lawful :=
    .of_idle rfl isSessions_nil
  apply Edit.afterAll_keeps _ start
  intro edit member strip kept
  obtain ⟨action, -, rfl⟩ := List.mem_map.mp member
  exact kept.perform action

/-! ## All runs -/

/-- **A driver is used in sessions.** For every driver, whichever of its calls fail, and for
every run of requests: when the strip has been given up, the calls of the driver are
sessions one after the other. Before that, the strip counts as initialised exactly while a
session is open. A request that is out of place in or out of a session, painting and
configuring do not reach the driver, and the attempt to show a frame outside of a session is
refused, as is the attempt to wait for one. -/
theorem driver_lifecycle (config : StripConfig) (driver : δ) (actions : List Action) :
    IsSessions (callsWithRelease config driver actions) ∧
    ((run config driver actions).initialized = true ↔
      InSession (calls config driver actions)) ∧
    ((run config driver actions).initialized = false ↔
      IsSessions (calls config driver actions)) ∧
    (∀ action : Action, action.silent (run config driver actions).initialized = true →
      calls config driver (actions ++ [action]) = calls config driver actions) ∧
    ((run config driver actions).initialized = false →
      render (run config driver actions) = .error .notInitialized (run config driver actions) ∧
      wait (run config driver actions) = .error .notInitialized (run config driver actions)) := by
  have lawful := lawful_run config driver actions
  have flag : (run config ({ inner := driver } : Watched δ) actions).initialized =
      (run config driver actions).initialized :=
    congrArg Strip.initialized (run_unwatch config driver actions)
  refine ⟨?_, ?_, ?_, ?_, ?_⟩
  · obtain ⟨kept, idle⟩ := lawful.uninit
    rw [callsWithRelease, release_eq_after]
    exact kept.isSessions idle
  · rw [← flag]
    exact lawful.initialized_iff
  · rw [← flag]
    exact lawful.idle_iff
  · intro action silent
    rw [← flag] at silent
    have further : run config ({ inner := driver } : Watched δ) (actions ++ [action]) =
        (perform action).after (run config { inner := driver } actions) := by
      rw [run, List.map_append, Edit.afterAll_append]
      rfl
    rw [calls, further, (after_of_silent silent).1]
    rfl
  · intro idle
    exact ⟨render_of_idle idle, wait_of_idle idle⟩

/-- The first initialisation and the first letting go fail. The second session is ended by
giving up the strip. -/
example :
    callsWithRelease { width := 2, height := 1 }
        ({ inner := {}, failures := [(.init, 0), (.uninit, 0)] } : Scripted Headless)
        [.render, .init, .init, .init, .render, .uninit, .uninit, .wait, .init] =
      [⟨.init, false⟩,
        ⟨.init, true⟩, ⟨.render, true⟩, ⟨.uninit, false⟩,
        ⟨.init, true⟩, ⟨.uninit, true⟩] := by decide

end Strip

end LedMatrix
