/-
# What happens to a compositor

The `history` of a run of requests is the list of the events in it. A request that is
refused is no event, and most of those that succeed are none either.

Every request takes the ledger of a compositor along its event or leaves it as it is
(`Sound.leads_perform`), so the ledger at the end of a run is the one to which the history
leads (`leads_run`). What holds of all ledgers along a history is thus proved without
looking at a request again.
-/

import LedMatrix.Proofs.Compositor.Ledger
import LedMatrix.Proofs.Compositor.Reachable

namespace LedMatrix.Compositor

variable {c : Compositor}

/-! ## Edits and the ledger -/

/-- Moving an entry is no event. -/
theorem ledger_setOffset (parent : WindowId) (child : Child) (x y : Int) (c : Compositor) :
    ((setOffset parent child x y).after c).ledger = c.ledger := by
  rw [Edit.after, setOffset_eq]
  cases c.find? parent with
  | none => rfl
  | some window =>
      dsimp only
      cases window.indexOf? child with
      | none => rfl
      | some index =>
          exact ledger_update_of_same fun window _ => window.registrations_modify index x y

theorem ledger_moveWindow (id : WindowId) (x y : Int) (c : Compositor) :
    ((moveWindow id x y).after c).ledger = c.ledger := by
  rw [Edit.after, moveWindow_eq]
  cases c.find? id with
  | none => rfl
  | some window =>
      dsimp only
      cases window.parent with
      | none => rfl
      | some parent => exact ledger_setOffset parent (.window id) x y c

theorem ledger_add (parent child : WindowId) (x y : Int) (c : Compositor) :
    ((add parent child x y).after c).ledger = c.ledger := by
  rw [Edit.after, add_eq]
  cases c.find? parent with
  | none => rfl
  | some base =>
      cases c.find? child with
      | none => rfl
      | some moved =>
          by_cases cyclic : c.isAncestorOrSelf child parent = true
          · simp [cyclic]
          · simp [cyclic, ledger_attach]

theorem ledger_remove (parent child : WindowId) (c : Compositor) :
    ((remove parent child).after c).ledger = c.ledger := by
  rw [Edit.after, remove_eq]
  cases c.find? child with
  | none => rfl
  | some moved =>
      cases below : c.find? parent with
      | none => rfl
      | some window =>
          dsimp only
          cases found : window.indexOf? (.window child) with
          | none => rfl
          | some index => exact ledger_detach below found

theorem ledger_paint {α : Type} (id : WindowId) (edit : Edit Pixmap α) (c : Compositor) :
    ((paint id edit).after c).ledger = c.ledger := by
  rw [Edit.after, paint_eq]
  cases c.find? id with
  | none => rfl
  | some window =>
      dsimp only
      cases edit window.buffer with
      | ok answer buffer => exact ledger_update_of_same fun _ _ => rfl
      | error cause buffer => exact ledger_update_of_same fun _ _ => rfl

theorem ledger_drawWindow (target source : WindowId) (x y : Int) (flip : Flip) (c : Compositor) :
    ((drawWindow target source x y flip).after c).ledger = c.ledger := by
  rw [Edit.after, drawWindow_eq]
  cases c.snapshot source with
  | error cause => rfl
  | ok picture => exact ledger_paint target _ c

/-- Creating a window issues the handle that the caller gets. -/
theorem Sound.leads_createWindow (sound : c.Sound) {width height : Nat} {id : WindowId}
    {left : Compositor} (run : Compositor.createWindow width height c = .ok id left) :
    c.ledger.Leads [.issued id] left.ledger := by
  cases next : c.free with
  | nil =>
      rw [createWindow_of_nil next] at run
      cases run
      exact c.leads_extend width height
  | cons slot free =>
      obtain ⟨generation, empty⟩ : c.Vacant slot := by
        rw [← sound.stocked.mem_free, next]
        exact List.mem_cons_self
      rw [createWindow_of_cons next empty] at run
      cases run
      exact leads_occupy empty free width height

/-! ## The history of a run -/

/-- The event that a request is when it succeeds with an answer, if it is one. -/
def event? : Action → Answer → Option Event
  | .createWindow .., .window id => some (.issued id)
  | .createChild .., .window id => some (.issued id)
  | .destroy id, _ => some (.destroyed id)
  | .addSource parent source .., .source id => some (.registered parent id source)
  | .removeSource parent id, _ => some (.withdrawn parent id)
  | _, _ => none

/-- What happens when something is asked for: nothing, or one event. -/
def events (action : Action) (c : Compositor) : List Event :=
  match (perform action).answer c with
  | .ok answer => (event? action answer).toList
  | .error _ => []

/-- What happens in a run of requests. -/
def history : List Action → Compositor → List Event
  | [], _ => []
  | action :: rest, c => events action c ++ history rest ((perform action).after c)

theorem leads_of_ok (action : Action) {answer : Answer} {left : Compositor}
    (ran : perform action c = .ok answer left)
    (leads : c.ledger.Leads (event? action answer).toList left.ledger) :
    c.ledger.Leads (events action c) ((perform action).after c).ledger := by
  rwa [events, Edit.answer_of_ok ran, Edit.after_of_ok ran]

/-- A request that is refused and changes nothing is no event. -/
theorem leads_of_error (action : Action) {cause : CanvasError}
    (ran : perform action c = .error cause c) :
    c.ledger.Leads (events action c) ((perform action).after c).ledger := by
  rw [events, Edit.answer_of_error ran, Edit.after_of_error ran]
  exact .refl c.ledger

/-- A request that can be no event. -/
theorem leads_of_silent (action : Action) (silent : ∀ answer, event? action answer = none)
    (same : ((perform action).after c).ledger = c.ledger) :
    c.ledger.Leads (events action c) ((perform action).after c).ledger := by
  have none : events action c = [] := by
    rw [events]
    cases (perform action).answer c with
    | ok answer => exact congrArg Option.toList (silent answer)
    | error cause => rfl
  rw [none]
  exact .of_eq same

/-- The new window of a request is created before it is laid on another one, which is no
event. -/
theorem Sound.leads_createChild (sound : c.Sound) (parent : WindowId) (x y : Int)
    (width height : Nat) :
    c.ledger.Leads (events (.createChild parent x y width height) c)
      ((Compositor.perform (.createChild parent x y width height)).after c).ledger := by
  cases below : c.find? parent with
  | none =>
      apply leads_of_error (.createChild parent x y width height)
      exact Edit.map_of_error (fetch_bind_of_none below) Answer.window
  | some window =>
      obtain ⟨id, left, created, run, -⟩ :=
        sound.createChild_ok (isAlive_of_find? below) x y width height
      apply leads_of_ok (.createChild parent x y width height) (Edit.map_of_ok run Answer.window)
      rw [ledger_attach]
      exact sound.leads_createWindow created

/-- Taking a window off its parent before it is destroyed is no event. -/
theorem leads_destroy (id : WindowId) (c : Compositor) :
    c.ledger.Leads (events (.destroy id) c) ((perform (.destroy id)).after c).ledger := by
  have run := destroy_eq id c
  cases found : (c.unlink id).find? id with
  | none =>
      rw [found] at run
      exact leads_of_error (.destroy id) (Edit.map_of_error run _)
  | some window =>
      rw [found] at run
      have dissolved := leads_dissolve found window.entries
      rw [ledger_unlink] at dissolved
      exact leads_of_ok (.destroy id) (Edit.map_of_ok run _) dissolved

theorem leads_addSource (parent : WindowId) (source : Source) (x y : Int) (c : Compositor) :
    c.ledger.Leads (events (.addSource parent source x y) c)
      ((perform (.addSource parent source x y)).after c).ledger := by
  have run := addSource_eq parent source x y c
  cases below : c.find? parent with
  | none =>
      rw [below] at run
      exact leads_of_error (.addSource parent source x y) (Edit.map_of_error run Answer.source)
  | some window =>
      rw [below] at run
      apply leads_of_ok (.addSource parent source x y) (Edit.map_of_ok run Answer.source)
      exact leads_register below source x y

theorem leads_removeSource (parent : WindowId) (source : SourceId) (c : Compositor) :
    c.ledger.Leads (events (.removeSource parent source) c)
      ((perform (.removeSource parent source)).after c).ledger := by
  have run := removeEntry_eq parent (.source source) c
  cases below : c.find? parent with
  | none =>
      rw [below] at run
      exact leads_of_error (.removeSource parent source) (Edit.map_of_error run _)
  | some window =>
      simp only [below] at run
      cases found : window.indexOf? (.source source) with
      | none =>
          rw [found] at run
          exact leads_of_error (.removeSource parent source) (Edit.map_of_error run _)
      | some index =>
          rw [found] at run
          apply leads_of_ok (.removeSource parent source) (Edit.map_of_ok run _)
          exact leads_withdraw below found

/-- **Every request goes by the rules of the ledger.** -/
theorem Sound.leads_perform (sound : c.Sound) (action : Action) :
    c.ledger.Leads (events action c) ((Compositor.perform action).after c).ledger := by
  cases action with
  | createWindow width height =>
      obtain ⟨id, left, run, -⟩ := sound.createWindow width height
      apply leads_of_ok (.createWindow width height) (Edit.map_of_ok run Answer.window)
      exact sound.leads_createWindow run
  | createChild parent x y width height => exact sound.leads_createChild parent x y width height
  | destroy id => exact leads_destroy id c
  | add parent child x y =>
      apply leads_of_silent (.add parent child x y) fun _ => rfl
      rw [Compositor.perform, Edit.after_map, ledger_add]
  | addSource parent source x y => exact leads_addSource parent source x y c
  | remove parent child =>
      apply leads_of_silent (.remove parent child) fun _ => rfl
      rw [Compositor.perform, Edit.after_map, ledger_remove]
  | removeSource parent source => exact leads_removeSource parent source c
  | moveWindow id x y =>
      apply leads_of_silent (.moveWindow id x y) fun _ => rfl
      rw [Compositor.perform, Edit.after_map, ledger_moveWindow]
  | moveSource parent source x y =>
      apply leads_of_silent (.moveSource parent source x y) fun _ => rfl
      rw [Compositor.perform, Edit.after_map, moveSource, ledger_setOffset]
  | drawWindow target source x y flip =>
      apply leads_of_silent (.drawWindow target source x y flip) fun _ => rfl
      rw [Compositor.perform, Edit.after_map, ledger_drawWindow]
  | paint id edit =>
      apply leads_of_silent (.paint id edit) fun _ => rfl
      rw [Compositor.perform, Edit.after_map, ledger_paint]

/-- **The history of a run leads to its end.** -/
theorem Sound.leads_afterAll (sound : c.Sound) (actions : List Action) :
    c.ledger.Leads (history actions c)
      (Edit.afterAll (actions.map Compositor.perform) c).ledger := by
  induction actions generalizing c with
  | nil => exact .refl c.ledger
  | cons action rest ih => exact (sound.leads_perform action).append (ih (sound.perform action))

theorem leads_run (actions : List Action) :
    empty.ledger.Leads (history actions empty) (run actions).ledger :=
  sound_empty.leads_afterAll actions

end LedMatrix.Compositor
