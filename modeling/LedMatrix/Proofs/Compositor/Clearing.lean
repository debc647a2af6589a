/-
# Clearing a registry

There are three ways to clear something off a window: a window on it is taken off or destroyed, and
a source is unregistered (`Compositor.Clears`). Each of them takes one entry out of the registry and
leaves the window's own picture alone (`Sound.exists_of_clears`). So a run of them that meets every
entry once succeeds at every step and leaves the bare picture, whatever the order and whichever way
each entry is cleared (`Sound.cleared`).
-/

import LedMatrix.Proofs.Compositor.Destroying

namespace LedMatrix.Compositor

variable {c : Compositor}

/-- The requests that clear something off a window. -/
inductive Clears (id : WindowId) : Child → Action → Prop
  | remove (child : WindowId) : Clears id (.window child) (.remove id child)
  | destroy (child : WindowId) : Clears id (.window child) (.destroy child)
  | removeSource (source : SourceId) : Clears id (.source source) (.removeSource id source)

/-- The window has one mention of a child less and is otherwise as it was. -/
structure Cleared (window fewer : Window) (child : Child) : Prop where
  buffer_eq : fewer.buffer = window.buffer
  children_perm : fewer.children.Perm (window.children.erase child)

theorem Cleared.of_eraseIdx {window : Window} {child : Child} {index : Nat}
    (place : window.indexOf? child = some index) :
    Cleared window { window with entries := window.entries.eraseIdx index } child where
  buffer_eq := rfl
  children_perm := by rw [Window.children_eraseIdx place]

theorem Cleared.of_split {window : Window} {before after : List Entry} {entry : Entry}
    (split : window.entries = before ++ entry :: after) :
    Cleared window { window with entries := before ++ after } entry.node.child where
  buffer_eq := rfl
  children_perm := by
    have named : window.children.Perm
        (entry.node.child :: (before ++ after).map (·.node.child)) := by
      rw [Window.children, split, List.map_append, List.map_append, List.map_cons]
      exact List.perm_middle
    have others := named.erase entry.node.child
    rw [List.erase_cons_head] at others
    exact others.symm

/-- **One step of clearing** succeeds. -/
theorem Sound.exists_of_clears (sound : c.Sound) {id : WindowId} {window : Window}
    (found : c.find? id = some window) {child : Child} (member : child ∈ window.children)
    {action : Action} (clears : Clears id child action) :
    ∃ left fewer, Compositor.perform action c = .ok .done left ∧ left.find? id = some fewer ∧
      Cleared window fewer child := by
  obtain ⟨index, place⟩ := Window.exists_indexOf?_of_mem member
  cases clears with
  | remove above =>
      obtain ⟨moved, foundAbove⟩ := isAlive_iff.mp (sound.linked.isAlive_of_mem found member)
      have distinct : id ≠ above := by
        rintro rfl
        exact sound.linked.not_transGen_holds_self id (.single ⟨window, found, member⟩)
      have ran : Compositor.remove id above c = .ok () (c.detach id above index) := by
        rw [remove_eq, foundAbove, found]
        dsimp only
        rw [place]
      refine ⟨_, _, Edit.map_of_ok ran _, ?_, .of_eraseIdx place⟩
      rw [detach, find?_update_of_ne _ _ distinct, find?_update_same, found]
      rfl
  | destroy above =>
      obtain ⟨gone, foundAbove⟩ := isAlive_iff.mp (sound.linked.isAlive_of_mem found member)
      obtain ⟨before, entry, after, split, named, kept⟩ :=
        (sound.destroyed_dissolve foundAbove).below id window found member
      refine ⟨_, _, Edit.map_of_ok (sound.linked.destroy_of_find? foundAbove) _, kept, ?_⟩
      rw [← named]
      exact .of_split split
  | removeSource source =>
      have ran : Compositor.removeSource id source c = .ok ()
          (c.update id fun window =>
            { window with entries := window.entries.eraseIdx index }) := by
        rw [Compositor.removeSource, removeEntry_eq, found]
        dsimp only
        rw [place]
      refine ⟨_, _, Edit.map_of_ok ran _, ?_, .of_eraseIdx place⟩
      rw [find?_update_same, found]
      rfl

/-- **A window is cleared in any order**: a run that clears each of its children once succeeds at
every step and leaves the window's own picture with nothing on it. -/
theorem Sound.cleared (sound : c.Sound) {id : WindowId} {window : Window}
    (found : c.find? id = some window) {order : List Child} {actions : List Action}
    (clearing : List.Forall₂ (Clears id) order actions) (listed : order.Perm window.children) :
    (∀ answer ∈ Edit.answers (actions.map Compositor.perform) c, answer = .ok .done) ∧
      ∃ bare, (Edit.afterAll (actions.map Compositor.perform) c).find? id = some bare ∧
        bare.buffer = window.buffer ∧ bare.entries = [] := by
  induction clearing generalizing c window with
  | nil =>
      refine ⟨fun answer told => absurd told List.not_mem_nil, window, found, rfl, ?_⟩
      exact List.map_eq_nil_iff.mp listed.nil_eq.symm
  | @cons child action order actions clears _ ih =>
      have member : child ∈ window.children := listed.subset List.mem_cons_self
      obtain ⟨left, fewer, ran, foundFewer, cleared⟩ := sound.exists_of_clears found member clears
      have sound' : left.Sound := by
        rw [← Edit.after_of_ok ran]
        exact sound.perform action
      have rest : order.Perm fewer.children := by
        have others := listed.erase child
        rw [List.erase_cons_head] at others
        exact others.trans cleared.children_perm.symm
      obtain ⟨answered, bare, foundBare, buffer, empty⟩ := ih sound' foundFewer rest
      rw [List.map_cons, Edit.answers, Edit.answer_of_ok ran, Edit.after_of_ok ran]
      refine ⟨List.forall_mem_cons.mpr ⟨rfl, answered⟩, bare, ?_,
        buffer.trans cleared.buffer_eq, empty⟩
      rw [Edit.afterAll, List.foldl_cons, Edit.after_of_ok ran]
      exact foundBare

end LedMatrix.Compositor
