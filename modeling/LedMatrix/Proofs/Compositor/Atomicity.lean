/-
# Requests that fail change nothing

Several edits of a compositor change it in more than one step, with a look-up that
may fail between the steps: a window is created before it is laid on its parent, it
is taken off one parent before it is laid on another one, and a picture is painted
cell by cell. An edit keeps what it has done when it fails, so nothing but the
order of the checks and the state of the arrangement makes a failure harmless.

`perform_atomic` says that every failure is: whatever is asked of a reachable
compositor, apart from painting on a window directly, a request that is refused
leaves slots, registries, links, pictures and counters as they were. Painting one
window onto another one needs the sizes of the windows to fit, because it must not
stop half-way; the sources in the picture may fail as they like.
-/

import LedMatrix.Proofs.Compositor.Layers

namespace LedMatrix.Compositor

variable {c : Compositor}

/-! ## Edits that check before they change -/

theorem atomic_add (parent child : WindowId) (x y : Int) (c : Compositor) :
    (add parent child x y).Atomic c := by
  rw [Edit.Atomic, add_eq]
  split
  · rfl
  · rfl
  · split
    · rfl
    · trivial

theorem atomic_destroy (id : WindowId) (c : Compositor) : (destroy id).Atomic c := by
  rw [Edit.Atomic, destroy_eq]
  split
  · rfl
  · trivial

theorem atomic_addSource (parent : WindowId) (source : Source) (x y : Int) (c : Compositor) :
    (addSource parent source x y).Atomic c := by
  rw [Edit.Atomic, addSource_eq]
  split
  · rfl
  · trivial

theorem atomic_remove (parent child : WindowId) (c : Compositor) :
    (remove parent child).Atomic c := by
  rw [Edit.Atomic, remove_eq]
  split
  · rfl
  · rfl
  · split
    · rfl
    · trivial

theorem atomic_removeEntry (parent : WindowId) (child : Child) (c : Compositor) :
    (removeEntry parent child).Atomic c := by
  rw [Edit.Atomic, removeEntry_eq]
  split
  · rfl
  · split
    · rfl
    · trivial

theorem atomic_setOffset (parent : WindowId) (child : Child) (x y : Int) (c : Compositor) :
    (setOffset parent child x y).Atomic c := by
  rw [Edit.Atomic, setOffset_eq]
  split
  · rfl
  · split
    · rfl
    · trivial

theorem atomic_moveWindow (id : WindowId) (x y : Int) (c : Compositor) :
    (moveWindow id x y).Atomic c := by
  rw [Edit.Atomic, moveWindow_eq]
  split
  · rfl
  · split
    · rfl
    · exact atomic_setOffset _ (.window id) x y c

/-! ## Edits that cannot fail once they have begun to change -/

/-- Creating a window on a live one cannot fail, since nothing lies on a new
window. -/
theorem Sound.atomic_createChild (sound : c.Sound) (parent : WindowId) (x y : Int)
    (width height : Nat) : (Compositor.createChild parent x y width height).Atomic c := by
  cases base : c.find? parent with
  | none =>
      have run :
          Compositor.createChild parent x y width height c = .error (.staleWindow parent) c :=
        fetch_bind_of_none base
      rw [Edit.Atomic, run]
      rfl
  | some window =>
      obtain ⟨id, left, -, run, -⟩ :=
        sound.createChild_ok (isAlive_of_find? base) x y width height
      rw [Edit.Atomic, run]
      trivial

/-- The picture that a snapshot takes can be read wherever it is, so painting it
comes to its end. -/
theorem atomic_drawWindow (target : WindowId) {source : WindowId}
    (fits : ∀ window, c.find? source = some window →
      window.buffer.width < lengthLimit ∧ window.buffer.height < lengthLimit)
    (x y : Int) (flip : Flip) : (drawWindow target source x y flip).Atomic c := by
  rw [Edit.Atomic, drawWindow_eq]
  cases taken : c.snapshot source with
  | error cause => rfl
  | ok picture =>
      have readable : picture.toSource.Readable := by
        cases found : c.find? source with
        | none =>
            rw [snapshot, view, Compositor.window, found] at taken
            cases taken
        | some window =>
            rw [snapshot, view_of_find? found] at taken
            have grid := Pixmap.orientation_of_ofSource taken
            obtain ⟨width, height⟩ := fits window found
            apply picture.readable_toSource
            · rwa [Pixmap.width, grid]
            · rwa [Pixmap.height, grid]
      dsimp only
      rw [paint_eq]
      cases c.find? target with
      | none => rfl
      | some window =>
          obtain ⟨painted, drawn, -⟩ := Pixmap.draw_eq readable x y flip window.buffer
          dsimp only
          rw [drawn]
          trivial

/-! ## All requests -/

/-- **A request that fails changes nothing.** Whichever handles it uses, a request to
a reachable compositor that is refused leaves the compositor exactly as it was. The
one request left out is painting on a window directly, which may stop half-way. -/
theorem perform_atomic (reachable : c.Reachable)
    (fits : ∀ id window, c.find? id = some window →
      window.buffer.width < lengthLimit ∧ window.buffer.height < lengthLimit)
    {action : Action} (indirect : ∀ id edit, action ≠ .paint id edit) {cause : CanvasError}
    {left : Compositor} (failed : perform action c = .error cause left) : left = c := by
  have sound := reachable.sound
  have atomic : (perform action).Atomic c := by
    cases action with
    | createWindow width height =>
        obtain ⟨id, left, run, -⟩ := sound.createWindow width height
        refine Edit.Atomic.map ?_ _
        rw [Edit.Atomic, run]
        trivial
    | createChild parent x y width height =>
        exact (sound.atomic_createChild parent x y width height).map _
    | destroy id => exact (atomic_destroy id c).map _
    | add parent child x y => exact (atomic_add parent child x y c).map _
    | addSource parent source x y => exact (atomic_addSource parent source x y c).map _
    | remove parent child => exact (atomic_remove parent child c).map _
    | removeSource parent source => exact (atomic_removeEntry parent (.source source) c).map _
    | moveWindow id x y => exact (atomic_moveWindow id x y c).map _
    | moveSource parent source x y => exact (atomic_setOffset parent (.source source) x y c).map _
    | drawWindow target source x y flip =>
        exact (atomic_drawWindow target (fits source) x y flip).map _
    | paint id edit => exact absurd rfl (indirect id edit)
  exact atomic.eq_of_error failed

/-- Three windows, each on the one before. -/
def tower : Compositor :=
  run [.createWindow 2 2, .createChild ⟨0, 0⟩ 1 0 2 1, .createChild ⟨1, 0⟩ 0 0 1 1]

/-- The window in the middle cannot be laid on the topmost one, and the attempt does not
take it off the one at the bottom. -/
theorem perform_atomic_tower :
    tower.Reachable ∧
      (∀ id window, tower.find? id = some window →
        window.buffer.width < lengthLimit ∧ window.buffer.height < lengthLimit) ∧
      (∀ id edit, Action.add ⟨2, 0⟩ ⟨1, 0⟩ 5 (-5) ≠ .paint id edit) ∧
      ∃ left, perform (.add ⟨2, 0⟩ ⟨1, 0⟩ 5 (-5)) tower = .error (.cycle ⟨2, 0⟩ ⟨1, 0⟩) left ∧
        left = tower ∧ left.parent? ⟨1, 0⟩ = some ⟨0, 0⟩ := by
  have reachable : tower.Reachable := ⟨_, rfl⟩
  have alive : tower.live = [⟨0, 0⟩, ⟨1, 0⟩, ⟨2, 0⟩] := by decide
  have fits : ∀ id window, tower.find? id = some window →
      window.buffer.width < lengthLimit ∧ window.buffer.height < lengthLimit := by
    intro id window found
    have listed := mem_live.mpr (isAlive_of_find? found)
    rw [alive, List.mem_cons, List.mem_cons, List.mem_singleton] at listed
    rcases listed with rfl | rfl | rfl <;> obtain rfl := Option.some.inj found <;> decide
  have indirect : ∀ id edit, Action.add ⟨2, 0⟩ ⟨1, 0⟩ 5 (-5) ≠ .paint id edit := nofun
  have failed : perform (.add ⟨2, 0⟩ ⟨1, 0⟩ 5 (-5)) tower = .error (.cycle ⟨2, 0⟩ ⟨1, 0⟩) tower :=
    rfl
  exact ⟨reachable, fits, indirect, tower, failed, perform_atomic reachable fits indirect failed, rfl⟩

end LedMatrix.Compositor
