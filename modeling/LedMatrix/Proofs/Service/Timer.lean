/-
# The timer stops when told to

The timer looks at its two flags without holding the strip, so whatever clients do can fall
between a look and what follows from it. A life of a shared canvas is a sequence of moves, each
of which cannot be divided: a step of the timer, a command, an access to the strip, the start of
giving up the canvas, and at its end giving up the strip (`Lifetime.step?`). Once the canvas is
being given up nobody has access to it any more, and the strip is given up only after the timer
has ended.

A timer that is past its last look still renders, whatever has become of the flags since: it
owes a rendering. No move raises what is owed, so this bounds what is rendered in a run
(`Lifetime.tally_le`). With the switch off only a timer that has committed itself owes anything;
once the end has been announced, so does one that is about to look at the switch.

`TimedCanvas.close` takes the steps of the timer all at once. It is one of these runs
(`Lifetime.run?_close`), and it waits long enough.
-/

import LedMatrix.Proofs.Service.Tasks

namespace LedMatrix

/-! ## Lives of a canvas -/

/-- A shared canvas with its timer, until its strip has been given up. -/
structure Lifetime (δ : Type) where
  timed : TimedCanvas δ
  /-- Whether the strip has been given up. -/
  released : Bool := false

/-- What can happen to a shared canvas as one step. -/
inductive Move where
  /-- The timer makes its next step. A pause may end at any time. -/
  | timer
  | command (command : Command)
  /-- Somebody has the strip to himself. -/
  | access (action : Strip.Action)
  /-- The canvas is going to be given up, and the timer is told to end. -/
  | shutdown
  /-- The strip is given up. -/
  | release

/-- Whether the timer moves. -/
def Move.isTimer : Move → Bool
  | .timer => true
  | _ => false

namespace Lifetime

variable {δ : Type} [StripDriver δ]

/-- A shared canvas as it is opened. -/
def opened (strip : Strip δ) (autoRender : Bool) : Lifetime δ where
  timed := { canvas := { strip, autoRender } }

/-- The end of a life: the strip is given up. -/
def givenUp (life : Lifetime δ) : Lifetime δ where
  timed := { life.timed with
    canvas := { life.timed.canvas with strip := life.timed.canvas.strip.release } }
  released := true

/-- The life after one move, if the move is possible. -/
def step? (life : Lifetime δ) : Move → Option (Lifetime δ)
  | .timer =>
      if life.timed.phase = .ended then none else some { life with timed := life.timed.step }
  | .command command =>
      if life.timed.shutdown then none
      else some { life with timed := (life.timed.execute command).2 }
  | .access action =>
      if life.timed.shutdown then none
      else
        let strip := (Strip.perform action).after life.timed.canvas.strip
        some { life with
          timed := { life.timed with canvas := { life.timed.canvas with strip } } }
  | .shutdown =>
      if life.timed.shutdown then none
      else some { life with timed := { life.timed with shutdown := true } }
  | .release =>
      if life.timed.phase = .ended ∧ life.released = false then some life.givenUp else none

/-- The life after several moves, if they are possible one after the other. -/
def run? : List Move → Lifetime δ → Option (Lifetime δ)
  | [], life => some life
  | move :: rest, life => (life.step? move).bind (run? rest)

/-- What the moves of a run add up to, each with a weight. -/
def tally (weight : Lifetime δ → Move → Nat) : List Move → Lifetime δ → Nat
  | [], _ => 0
  | move :: rest, life => weight life move + (life.step? move).elim 0 (tally weight rest)

/-- Whether the timer renders with this move. -/
def renders (life : Lifetime δ) (move : Move) : Bool :=
  move.isTimer && life.timed.phase = .committed

/-- How often the timer renders in a run. -/
def timerRenders : List Move → Lifetime δ → Nat := tally fun life move => (life.renders move).toNat

/-- How many steps the timer makes in a run. -/
def timerSteps : List Move → Lifetime δ → Nat := tally fun _ move => move.isTimer.toNat

theorem run?_cons_eq_some {move : Move} {rest : List Move} {life last : Lifetime δ} :
    run? (move :: rest) life = some last ↔
      ∃ next, life.step? move = some next ∧ run? rest next = some last :=
  Option.bind_eq_some_iff

theorem run?_append (earlier later : List Move) (life : Lifetime δ) :
    run? (earlier ++ later) life = (run? earlier life).bind (run? later) := by
  induction earlier generalizing life with
  | nil => rfl
  | cons move rest ih =>
      rw [List.cons_append, run?, run?, Option.bind_assoc]
      congr 1
      funext next
      exact ih next

/-- A run adds up to its first move and the rest. -/
theorem tally_cons (weight : Lifetime δ → Move → Nat) {life next : Lifetime δ} {move : Move}
    (moved : life.step? move = some next) (rest : List Move) :
    tally weight (move :: rest) life = weight life move + tally weight rest next := by
  rw [tally, moved, Option.elim_some]

/-- **What no move raises bounds what a run adds up to.** A move is paid for by what is owed
before it and no longer after it. -/
theorem tally_le (weight : Lifetime δ → Move → Nat) (owed : Lifetime δ → Nat)
    (holds : Lifetime δ → Prop) (allowed : Move → Prop)
    (pays : ∀ life move next, holds life → allowed move → life.step? move = some next →
      holds next ∧ weight life move + owed next ≤ owed life)
    {moves : List Move} (each : ∀ move ∈ moves, allowed move) {life last : Lifetime δ}
    (start : holds life) (ran : run? moves life = some last) :
    tally weight moves life ≤ owed life := by
  induction moves generalizing life with
  | nil => exact Nat.zero_le _
  | cons move rest ih =>
      obtain ⟨next, moved, further⟩ := run?_cons_eq_some.mp ran
      obtain ⟨here, later⟩ := List.forall_mem_cons.mp each
      obtain ⟨kept, paid⟩ := pays life move next start here moved
      have remaining := ih later kept further
      rw [tally_cons weight moved]
      omega

/-- What holds at the start of a run and is kept by every move holds at its end. -/
theorem run?_keeps (holds : Lifetime δ → Prop)
    (kept : ∀ life move next, holds life → life.step? move = some next → holds next)
    {moves : List Move} {life last : Lifetime δ} (start : holds life)
    (ran : run? moves life = some last) : holds last := by
  induction moves generalizing life with
  | nil =>
      cases ran
      exact start
  | cons move rest ih =>
      obtain ⟨next, moved, further⟩ := run?_cons_eq_some.mp ran
      exact ih (kept life move next start moved) further

/-! ## Single moves -/

/-- The moves that are possible, each with what it leaves. -/
inductive Moved (life : Lifetime δ) : Move → Lifetime δ → Prop
  | timer (running : life.timed.phase ≠ .ended) :
      Moved life .timer { life with timed := life.timed.step }
  | command (command : Command) (inUse : life.timed.shutdown = false) :
      Moved life (.command command) { life with timed := (life.timed.execute command).2 }
  | access (action : Strip.Action) (inUse : life.timed.shutdown = false) :
      Moved life (.access action)
        { life with
          timed := { life.timed with
            canvas := { life.timed.canvas with
              strip := (Strip.perform action).after life.timed.canvas.strip } } }
  | shutdown (inUse : life.timed.shutdown = false) :
      Moved life .shutdown { life with timed := { life.timed with shutdown := true } }
  | release (ended : life.timed.phase = .ended) (held : life.released = false) :
      Moved life .release life.givenUp

theorem moved_of_step? {life next : Lifetime δ} {move : Move}
    (moved : life.step? move = some next) : life.Moved move next := by
  cases move with
  | timer =>
      obtain ⟨running, ⟨⟩⟩ := Option.ite_none_left_eq_some.mp moved
      exact .timer running
  | command command =>
      obtain ⟨inUse, ⟨⟩⟩ := Option.ite_none_left_eq_some.mp moved
      exact .command command (Bool.eq_false_of_not_eq_true inUse)
  | access action =>
      obtain ⟨inUse, ⟨⟩⟩ := Option.ite_none_left_eq_some.mp moved
      exact .access action (Bool.eq_false_of_not_eq_true inUse)
  | shutdown =>
      obtain ⟨inUse, ⟨⟩⟩ := Option.ite_none_left_eq_some.mp moved
      exact .shutdown (Bool.eq_false_of_not_eq_true inUse)
  | release =>
      obtain ⟨⟨ended, held⟩, ⟨⟩⟩ := Option.ite_none_right_eq_some.mp moved
      exact .release ended held

end Lifetime

/-! ## What is owed -/

namespace TimerPhase

/-- Where the next step of the timer leads, with the two flags as they are. -/
def next (shutdown autoRender : Bool) : TimerPhase → TimerPhase
  | entering => if shutdown then ended else parked
  | parked => woken
  | woken => if shutdown then ended else checking
  | checking => if autoRender then committed else entering
  | committed => entering
  | ended => ended

/-- How many renderings a timer still makes while the switch is off. -/
def owedWhenOff : TimerPhase → Nat
  | committed => 1
  | _ => 0

/-- How many renderings a timer still makes once it has been told to end. -/
def owedAtEnd (autoRender : Bool) : TimerPhase → Nat
  | committed => 1
  | checking => autoRender.toNat
  | _ => 0

/-- How many steps a timer still makes once it has been told to end. -/
def stepsOwed (autoRender : Bool) : TimerPhase → Nat
  | ended => 0
  | entering | woken => 1
  | parked | committed => 2
  | checking => 2 + autoRender.toNat

/-- While the switch is off, what the timer renders is what it owes. -/
theorem owedWhenOff_next (phase : TimerPhase) (shutdown : Bool) :
    (decide (phase = committed)).toNat + (phase.next shutdown false).owedWhenOff ≤
      phase.owedWhenOff := by
  cases phase <;> cases shutdown <;> decide

/-- Once the timer has been told to end, what it renders is what it owes. -/
theorem owedAtEnd_next (phase : TimerPhase) (autoRender : Bool) :
    (decide (phase = committed)).toNat + (phase.next true autoRender).owedAtEnd autoRender ≤
      phase.owedAtEnd autoRender := by
  cases phase <;> cases autoRender <;> decide

/-- Once the timer has been told to end, every step brings it nearer to its end. -/
theorem stepsOwed_next {phase : TimerPhase} (running : phase ≠ ended) (autoRender : Bool) :
    1 + (phase.next true autoRender).stepsOwed autoRender ≤ phase.stepsOwed autoRender := by
  cases phase with
  | ended => exact absurd rfl running
  | _ => cases autoRender <;> decide

theorem owedAtEnd_le_one (phase : TimerPhase) (autoRender : Bool) :
    phase.owedAtEnd autoRender ≤ 1 := by
  cases phase <;> cases autoRender <;> decide

theorem stepsOwed_le (phase : TimerPhase) (autoRender : Bool) :
    phase.stepsOwed autoRender ≤ TimedCanvas.stepsToEnd := by
  cases phase <;> cases autoRender <;> decide

theorem ended_of_stepsOwed {phase : TimerPhase} {autoRender : Bool}
    (paid : phase.stepsOwed autoRender = 0) : phase = ended := by
  cases phase with
  | ended => rfl
  | checking => cases autoRender <;> cases paid
  | _ => cases paid

/-- Only a timer that has been told to end does. -/
theorem ended_of_next {phase : TimerPhase} {shutdown autoRender : Bool}
    (ends : phase.next shutdown autoRender = ended) : shutdown = true ∨ phase = ended := by
  cases shutdown with
  | true => exact .inl rfl
  | false =>
      cases phase with
      | ended => exact .inr rfl
      | checking => cases autoRender <;> cases ends
      | _ => cases ends

end TimerPhase

/-- A step of the timer leads on by the flags and leaves them alone. -/
theorem TimedCanvas.phase_step {δ : Type} [StripDriver δ] (timed : TimedCanvas δ) :
    timed.step.phase = timed.phase.next timed.shutdown timed.canvas.autoRender ∧
      timed.step.shutdown = timed.shutdown ∧
      timed.step.canvas.autoRender = timed.canvas.autoRender := by
  unfold step
  split
  · next entering => exact ⟨by rw [entering]; rfl, rfl, rfl⟩
  · next parked => exact ⟨by rw [parked]; rfl, rfl, rfl⟩
  · next woken => exact ⟨by rw [woken]; rfl, rfl, rfl⟩
  · next checking => exact ⟨by rw [checking]; rfl, rfl, rfl⟩
  · next committed =>
      rw [render_eq]
      exact ⟨by rw [committed]; rfl, rfl, rfl⟩
  · next ended => exact ⟨by rw [ended]; rfl, rfl, rfl⟩

/-- The timer touches the canvas with the steps that count as renderings, and renders once with
each of them. -/
theorem Lifetime.canvas_step {δ : Type} [StripDriver δ] (life : Lifetime δ) :
    life.timed.step.canvas =
      if life.renders .timer then TimedCanvas.render life.timed.canvas
      else life.timed.canvas := by
  unfold TimedCanvas.step Lifetime.renders
  cases life.timed.phase <;> rfl

/-- A switch that is off stays off unless it is thrown. -/
theorem SharedCanvas.autoRender_execute {δ : Type} [StripDriver δ] {canvas : SharedCanvas δ}
    (off : canvas.autoRender = false) {command : Command}
    (quiet : command ≠ .setAutoRender true) : (canvas.execute command).2.autoRender = false := by
  rw [execute_eq, autoRender_carryOut]
  cases command with
  | setAutoRender enabled =>
      cases enabled with
      | true => exact absurd rfl quiet
      | false => rfl
  | _ => exact off

namespace Lifetime

variable {δ : Type} [StripDriver δ] {life : Lifetime δ}

/-! ## Bounds -/

/-- **With the switch off the timer renders what it owes.** -/
theorem timerRenders_of_off (off : life.timed.canvas.autoRender = false) {moves : List Move}
    (quiet : .command (.setAutoRender true) ∉ moves) {last : Lifetime δ}
    (ran : run? moves life = some last) :
    timerRenders moves life ≤ life.timed.phase.owedWhenOff := by
  have each : ∀ move ∈ moves, move ≠ .command (.setAutoRender true) := by
    intro move member thrown
    exact quiet (thrown ▸ member)
  apply tally_le _ (fun life => life.timed.phase.owedWhenOff)
    (fun life => life.timed.canvas.autoRender = false) _ _ each off ran
  intro life move next off quiet moved
  cases moved_of_step? moved with
  | timer running =>
      obtain ⟨phase, -, flag⟩ := life.timed.phase_step
      have paid := life.timed.phase.owedWhenOff_next life.timed.shutdown
      rw [off] at phase
      rw [← phase] at paid
      exact ⟨flag.trans off, paid⟩
  | command command inUse =>
      have kept : command ≠ .setAutoRender true := fun thrown => quiet (congrArg _ thrown)
      exact ⟨SharedCanvas.autoRender_execute off kept, Nat.le_of_eq (Nat.zero_add _)⟩
  | access action inUse => exact ⟨off, Nat.le_of_eq (Nat.zero_add _)⟩
  | shutdown inUse => exact ⟨off, Nat.le_of_eq (Nat.zero_add _)⟩
  | release ended held => exact ⟨off, Nat.le_of_eq (Nat.zero_add _)⟩

/-- Once the canvas is being given up the timer moves until it has ended, and then the strip is
given up. -/
theorem moved_of_told (told : life.timed.shutdown = true) {move : Move} {next : Lifetime δ}
    (moved : life.step? move = some next) :
    move = .timer ∧ life.timed.phase ≠ .ended ∧ next = { life with timed := life.timed.step } ∨
      move = .release ∧ life.timed.phase = .ended ∧ life.released = false ∧
        next = life.givenUp := by
  cases moved_of_step? moved with
  | timer running => exact .inl ⟨rfl, running, rfl⟩
  | command command inUse => exact absurd (inUse.symm.trans told) Bool.false_ne_true
  | access action inUse => exact absurd (inUse.symm.trans told) Bool.false_ne_true
  | shutdown inUse => exact absurd (inUse.symm.trans told) Bool.false_ne_true
  | release ended held => exact .inr ⟨rfl, ended, held, rfl⟩

/-- What is owed by a timer that has been told to end bounds what it does, if it pays with every
step. -/
theorem tally_le_of_told (weight : Lifetime δ → Move → Nat) (owed : Bool → TimerPhase → Nat)
    (timer : ∀ life : Lifetime δ, life.timed.phase ≠ .ended →
      weight life .timer + owed life.timed.canvas.autoRender
        (life.timed.phase.next true life.timed.canvas.autoRender) ≤
          owed life.timed.canvas.autoRender life.timed.phase)
    (release : ∀ life : Lifetime δ, weight life .release = 0)
    (told : life.timed.shutdown = true) {moves : List Move} {last : Lifetime δ}
    (ran : run? moves life = some last) :
    tally weight moves life ≤ owed life.timed.canvas.autoRender life.timed.phase := by
  apply tally_le weight (fun life => owed life.timed.canvas.autoRender life.timed.phase)
    (fun life => life.timed.shutdown = true) (fun _ => True) _ (fun _ _ => trivial) told ran
  intro life move next told _ moved
  rcases moved_of_told told moved with ⟨rfl, running, rfl⟩ | ⟨rfl, -, -, rfl⟩
  · obtain ⟨phase, shutdown, flag⟩ := life.timed.phase_step
    dsimp only
    rw [phase, flag, told]
    exact ⟨shutdown.trans told, timer life running⟩
  · rw [release, Nat.zero_add]
    exact ⟨told, Nat.le_refl _⟩

/-- **A timer that has been told to end renders what it owes.** -/
theorem timerRenders_of_told (told : life.timed.shutdown = true) {moves : List Move}
    {last : Lifetime δ} (ran : run? moves life = some last) :
    timerRenders moves life ≤ life.timed.phase.owedAtEnd life.timed.canvas.autoRender := by
  apply tally_le_of_told _ TimerPhase.owedAtEnd _ (fun _ => rfl) told ran
  intro life _
  exact life.timed.phase.owedAtEnd_next life.timed.canvas.autoRender

/-- **A timer that has been told to end does so.** -/
theorem timerSteps_of_told (told : life.timed.shutdown = true) {moves : List Move}
    {last : Lifetime δ} (ran : run? moves life = some last) :
    timerSteps moves life ≤ life.timed.phase.stepsOwed life.timed.canvas.autoRender := by
  apply tally_le_of_told _ TimerPhase.stepsOwed _ (fun _ => rfl) told ran
  intro life running
  exact TimerPhase.stepsOwed_next running life.timed.canvas.autoRender

/-! ## Closing -/

end Lifetime

namespace TimedCanvas

variable {δ : Type} [StripDriver δ]

theorem step_of_ended {timed : TimedCanvas δ} (ended : timed.phase = .ended) :
    timed.step = timed := by
  rw [step, ended]

/-- As many steps as are owed take a timer that has been told to end to its end. -/
theorem phase_steps {timed : TimedCanvas δ} (told : timed.shutdown = true) {count : Nat}
    (enough : timed.phase.stepsOwed timed.canvas.autoRender ≤ count) :
    (steps count timed).phase = .ended := by
  induction count generalizing timed with
  | zero => exact TimerPhase.ended_of_stepsOwed (Nat.eq_zero_of_le_zero enough)
  | succ count ih =>
      obtain ⟨phase, shutdown, flag⟩ := timed.phase_step
      apply ih (shutdown.trans told)
      rw [phase, told, flag]
      by_cases ended : timed.phase = .ended
      · rw [ended]
        exact Nat.zero_le count
      · have paid := TimerPhase.stepsOwed_next ended timed.canvas.autoRender
        omega

end TimedCanvas

namespace Lifetime

variable {δ : Type} [StripDriver δ] {life : Lifetime δ}

/-- After the timer has ended, the strip can be given up. -/
theorem step?_release (ended : life.timed.phase = .ended) (held : life.released = false) :
    life.step? .release = some life.givenUp := if_pos ⟨ended, held⟩

/-- Steps of the timer are moves until it has ended, and nothing from then on. -/
theorem exists_run?_steps (count : Nat) (life : Lifetime δ) :
    ∃ moves, (∀ move ∈ moves, move = .timer) ∧
      run? moves life = some { life with timed := TimedCanvas.steps count life.timed } := by
  induction count generalizing life with
  | zero => exact ⟨[], nofun, rfl⟩
  | succ count ih =>
      by_cases ended : life.timed.phase = .ended
      · rw [TimedCanvas.steps, TimedCanvas.step_of_ended ended]
        exact ih life
      · obtain ⟨moves, all, ran⟩ := ih { life with timed := life.timed.step }
        refine ⟨.timer :: moves, List.forall_mem_cons.mpr ⟨rfl, all⟩, ?_⟩
        rw [run?_cons_eq_some]
        exact ⟨_, if_neg ended, ran⟩

/-- **Closing a canvas is a run**: the timer is told to end, makes steps until it has, and the
strip is given up. -/
theorem run?_close (inUse : life.timed.shutdown = false) (held : life.released = false) :
    ∃ moves, (∀ move ∈ moves, move = .timer) ∧
      run? (.shutdown :: moves ++ [.release]) life =
        some { timed := life.timed.close, released := true } := by
  let told : Lifetime δ := { life with timed := { life.timed with shutdown := true } }
  obtain ⟨moves, all, ran⟩ := exists_run?_steps TimedCanvas.stepsToEnd told
  have ended : (TimedCanvas.steps TimedCanvas.stepsToEnd told.timed).phase = .ended :=
    TimedCanvas.phase_steps rfl (TimerPhase.stepsOwed_le _ _)
  refine ⟨moves, all, ?_⟩
  rw [List.cons_append, run?_cons_eq_some]
  refine ⟨told, ?_, ?_⟩
  · show (if life.timed.shutdown then none else some told) = some told
    rw [inUse]
    rfl
  · rw [run?_append, ran]
    exact run?_cons_eq_some.mpr ⟨_, step?_release ended held, rfl⟩

/-! ## The end -/

/-- **A timer ends only after it has been told to.** -/
theorem told_of_ended {strip : Strip δ} {autoRender : Bool} {moves : List Move}
    (reached : run? moves (opened strip autoRender) = some life) :
    life.timed.phase = .ended → life.timed.shutdown = true := by
  apply run?_keeps (fun life => life.timed.phase = .ended → life.timed.shutdown = true) _ _ reached
  · intro life move next told moved
    cases moved_of_step? moved with
    | timer running =>
        obtain ⟨phase, shutdown, -⟩ := life.timed.phase_step
        intro ended
        rcases TimerPhase.ended_of_next (phase.symm.trans ended) with ending | already
        · exact shutdown.trans ending
        · exact absurd already running
    | command command inUse => exact told
    | access action inUse => exact told
    | shutdown inUse => exact fun _ => rfl
    | release ended held => exact told
  · exact nofun

/-- A run that begins after the timer has ended gives up the strip, if anything. -/
theorem run?_of_ended (told : life.timed.shutdown = true) (ended : life.timed.phase = .ended)
    {moves : List Move} {last : Lifetime δ} (ran : run? moves life = some last) :
    moves = [] ∧ last = life ∨ moves = [.release] ∧ last = life.givenUp := by
  cases moves with
  | nil =>
      cases ran
      exact .inl ⟨rfl, rfl⟩
  | cons move rest =>
      obtain ⟨next, moved, further⟩ := run?_cons_eq_some.mp ran
      rcases moved_of_told told moved with ⟨-, running, -⟩ | ⟨rfl, -, -, rfl⟩
      · exact absurd ended running
      · cases rest with
        | nil =>
            cases further
            exact .inr ⟨rfl, rfl⟩
        | cons move rest =>
            -- Nothing follows: neither flag nor phase has changed, and the strip is gone.
            have toldStill : life.givenUp.timed.shutdown = true := told
            obtain ⟨beyond, moved, -⟩ := run?_cons_eq_some.mp further
            rcases moved_of_told toldStill moved with ⟨-, running, -⟩ | ⟨-, -, held, -⟩
            · exact absurd ended running
            · cases held

end Lifetime

/-- Giving up a strip lets go of its driver once, if it is initialised, and otherwise leaves it
alone. -/
theorem Strip.log_release {δ : Type} [StripDriver δ] (strip : Strip (Watched δ)) :
    (strip.initialized = true →
      ∃ succeeded, strip.release.driver.log = strip.driver.log ++ [⟨.uninit, succeeded⟩]) ∧
    (strip.initialized = false → strip.release.driver.log = strip.driver.log) := by
  constructor
  · intro initialized
    obtain ⟨inner, succeeded, left⟩ := uninit_after initialized
    rw [release_eq_after, left]
    exact ⟨succeeded, rfl⟩
  · intro idle
    rw [release_eq_after, Edit.after_of_ok (uninit_of_idle idle)]

namespace Lifetime

variable {δ : Type} [StripDriver δ]

/-- The calls of the driver so far. -/
def log (life : Lifetime (Watched δ)) : List Outcome := life.timed.canvas.strip.driver.log

/-- The calls of the driver that the timer makes in a run, in their order. -/
def timerCalls : List Move → Lifetime (Watched δ) → List Outcome
  | [], _ => []
  | move :: rest, life =>
      (life.step? move).elim [] fun next =>
        (if move.isTimer then next.log.drop life.log.length else []) ++ timerCalls rest next

/-- The driver has been asked to render so many times at most, and for nothing else. -/
structure AreRenderings (calls : List Outcome) (most : Nat) : Prop where
  few : calls.length ≤ most
  each : ∀ one ∈ calls, one.call = .render

theorem AreRenderings.nil (most : Nat) : AreRenderings [] most :=
  ⟨Nat.zero_le most, fun _ member => absurd member List.not_mem_nil⟩

theorem AreRenderings.append {earlier later : List Outcome} {n m : Nat}
    (first : AreRenderings earlier n) (rest : AreRenderings later m) :
    AreRenderings (earlier ++ later) (n + m) where
  few := by
    rw [List.length_append]
    exact Nat.add_le_add first.few rest.few
  each one member := (List.mem_append.mp member).elim (first.each one) (rest.each one)

/-- A step of the timer that renders is one call to render, or none if the strip is not
initialised. Every other step is no call. -/
theorem exists_log_step (life : Lifetime (Watched δ)) :
    ∃ calls, life.timed.step.canvas.strip.driver.log = life.log ++ calls ∧
      AreRenderings calls (life.renders .timer).toNat := by
  rw [canvas_step]
  cases rendering : life.renders .timer with
  | false => exact ⟨[], (List.append_nil _).symm, .nil 0⟩
  | true =>
      rw [if_pos rfl, TimedCanvas.render_eq]
      cases initialized : life.timed.canvas.strip.initialized with
      | false =>
          refine ⟨[], ?_, .nil 1⟩
          rw [Edit.after_of_error (Strip.render_of_idle initialized), List.append_nil]
          rfl
      | true =>
          obtain ⟨inner, succeeded, left⟩ := Strip.after_call .render
            (StripDriver.render life.timed.canvas.strip.leds) life.timed.canvas.strip
          refine ⟨[⟨.render, succeeded⟩], ?_, Nat.le_refl 1, ?_⟩
          · rw [Edit.after, Strip.render_of_initialized initialized]
            exact congrArg (fun strip => strip.driver.log) left
          · intro one member
            rw [List.mem_singleton.mp member]

/-- **The driver hears of the timer only through its renderings.** -/
theorem areRenderings_timerCalls {moves : List Move} {life last : Lifetime (Watched δ)}
    (ran : run? moves life = some last) :
    AreRenderings (timerCalls moves life) (timerRenders moves life) := by
  induction moves generalizing life with
  | nil => exact .nil 0
  | cons move rest ih =>
      obtain ⟨next, moved, further⟩ := run?_cons_eq_some.mp ran
      have later := ih further
      have total : timerRenders (move :: rest) life =
          (life.renders move).toNat + timerRenders rest next := tally_cons _ moved rest
      rw [timerCalls, moved, Option.elim_some, total]
      cases move with
      | timer =>
          obtain ⟨-, ⟨⟩⟩ := Option.ite_none_left_eq_some.mp moved
          obtain ⟨calls, logged, here⟩ := life.exists_log_step
          have added : log { life with timed := life.timed.step } = life.log ++ calls := logged
          rw [Move.isTimer, if_pos rfl, added, List.drop_left]
          exact here.append later
      | _ => exact (AreRenderings.nil _).append later

/-- **The timer stops when told to.** Take any strip, any state of the switch, and any run from
the opening of the canvas on. From where the switch has been thrown off to where it is thrown on
again, the timer renders at most once, and only if it had committed itself before. From where the
timer has been told to end, it renders at most once and makes at most as many steps as closing
waits for. The driver is asked by the timer to render, no more often than this, and for nothing
else. If the timer has ended, the run can only go on by giving up the strip; that lets go of the
driver once if the strip is initialised, and is no call of the driver otherwise. -/
theorem timer_stops {strip : Strip (Watched δ)} {autoRender : Bool} {earlier : List Move}
    {life : Lifetime (Watched δ)} (reached : run? earlier (opened strip autoRender) = some life) :
    (∀ off during last, life.step? (.command (.setAutoRender false)) = some off →
      run? during off = some last → .command (.setAutoRender true) ∉ during →
      timerRenders during off ≤ (if life.timed.phase = .committed then 1 else 0) ∧
        AreRenderings (timerCalls during off) (timerRenders during off)) ∧
    (∀ told later last, life.step? .shutdown = some told → run? later told = some last →
      timerRenders later told ≤ 1 ∧
        AreRenderings (timerCalls later told) (timerRenders later told) ∧
        timerSteps later told ≤ TimedCanvas.stepsToEnd) ∧
    (life.timed.phase = .ended →
      (life.released = false → (life.step? .release).isSome = true) ∧
      ∀ later last, run? later life = some last →
        later = [] ∧ last = life ∨
        later = [.release] ∧
          (life.timed.canvas.strip.initialized = true →
            ∃ succeeded, last.log = life.log ++ [⟨.uninit, succeeded⟩]) ∧
          (life.timed.canvas.strip.initialized = false → last.log = life.log)) := by
  refine ⟨?_, ?_, ?_⟩
  · intro off during last thrown ran quiet
    cases moved_of_step? thrown with
    | command command inUse =>
        have bound := timerRenders_of_off rfl quiet ran
        refine ⟨Nat.le_trans bound (Nat.le_of_eq ?_), areRenderings_timerCalls ran⟩
        show life.timed.phase.owedWhenOff = _
        cases life.timed.phase <;> rfl
  · intro told later last ending ran
    cases moved_of_step? ending with
    | shutdown inUse =>
        have rendered := timerRenders_of_told rfl ran
        have stepped := timerSteps_of_told rfl ran
        exact ⟨Nat.le_trans rendered (TimerPhase.owedAtEnd_le_one _ _),
          areRenderings_timerCalls ran, Nat.le_trans stepped (TimerPhase.stepsOwed_le _ _)⟩
  · intro ended
    have told := told_of_ended reached ended
    constructor
    · intro held
      rw [step?_release ended held]
      rfl
    · intro later last ran
      rcases run?_of_ended told ended ran with unchanged | ⟨released, rfl⟩
      · exact .inl unchanged
      · exact .inr ⟨released, life.timed.canvas.strip.log_release⟩

/-- The switch is thrown off when the timer has just committed itself. It renders this once,
pauses, is told to end and ends; then the driver is let go. -/
theorem timer_stops_committed :
    let strip : Strip (Watched Headless) := Strip.new { width := 2, height := 1 } { inner := {} }
    let earlier : List Move := [.access .init, .timer, .timer, .timer, .timer]
    let later : List Move := [.timer, .timer, .shutdown, .timer, .timer]
    ∃ life off ended last, run? earlier (opened strip true) = some life ∧
      life.step? (.command (.setAutoRender false)) = some off ∧
      run? later off = some ended ∧ timerRenders later off ≤ 1 ∧
      timerCalls later off = [⟨.render, true⟩] ∧
      ended.timed.phase = .ended ∧ run? [.release] ended = some last ∧
      ∃ succeeded, last.log = [⟨.init, true⟩, ⟨.render, true⟩, ⟨.uninit, succeeded⟩] := by
  intro strip earlier later
  have reached : run? earlier (opened strip true) = some _ := rfl
  have whole : run? (earlier ++ .command (.setAutoRender false) :: later) (opened strip true) =
      some _ := rfl
  obtain ⟨muted, -, -⟩ := timer_stops reached
  obtain ⟨-, -, final⟩ := timer_stops whole
  refine ⟨_, _, _, _, rfl, rfl, rfl, ?_, rfl, rfl, rfl, ?_⟩
  · refine (muted _ _ _ rfl rfl ?_).1
    simp [later]
  · obtain ⟨-, run⟩ := final rfl
    obtain ⟨stays, -⟩ | ⟨-, letGo, -⟩ := run [.release] _ rfl
    · cases stays
    · exact letGo rfl

end Lifetime

end LedMatrix
