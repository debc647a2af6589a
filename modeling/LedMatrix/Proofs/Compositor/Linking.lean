/-
# Where links come from

Requests cut links between windows in several ways, but only two of them make one: a window is laid
on another one, or it is created on it (`Compositor.Lays`). Every other request leaves at most the
links that were there before (`Compositor.NoNewLinks`). So whoever finds one window on another can
tell that this has been asked for (`Sound.liesOn_of_perform`), and along a run of requests a window
stays on nothing until it is laid on something, and nothing is on it until something is laid there.
-/

import LedMatrix.Proofs.Compositor.Handles

namespace LedMatrix.Compositor

variable {c left : Compositor}

/-- Windows may have been taken off other ones, but none has been laid on another one. -/
def NoNewLinks (c left : Compositor) : Prop :=
  ∀ above below, left.LiesOn above below → c.LiesOn above below

theorem NoNewLinks.refl (c : Compositor) : c.NoNewLinks c := fun _ _ => id

theorem NoNewLinks.trans {middle : Compositor} (first : c.NoNewLinks middle)
    (second : middle.NoNewLinks left) : c.NoNewLinks left :=
  fun above below link => first above below (second above below link)

/-- A change of a window that keeps its link or cuts it. -/
theorem noNewLinks_update (c : Compositor) (id : WindowId) (change : Window → Window)
    (link : ∀ window, (change window).parent = window.parent ∨ (change window).parent = none) :
    c.NoNewLinks (c.update id change) := by
  intro above below lies
  rw [LiesOn, parent?_update] at lies
  split at lies
  · next here =>
      obtain ⟨window, found, linked⟩ := Option.bind_eq_some_iff.mp lies
      rcases link window with same | cut
      · rw [LiesOn, here, parent?_of_find? found, ← same, linked]
      · cases cut.symm.trans linked
  · exact lies

theorem noNewLinks_unlink (c : Compositor) (id : WindowId) : c.NoNewLinks (c.unlink id) := by
  intro above below lies
  rw [LiesOn, parent?_unlink] at lies
  split at lies
  · cases lies
  · exact lies

theorem noNewLinks_detach (c : Compositor) (parent child : WindowId) (index : Nat) :
    c.NoNewLinks (c.detach parent child index) :=
  (c.noNewLinks_update parent
      (fun window => { window with entries := window.entries.eraseIdx index })
      fun _ => .inl rfl).trans
    (noNewLinks_update _ child _ fun _ => .inr rfl)

theorem noNewLinks_dissolve {id : WindowId} (alive : c.isAlive id = true) (entries : List Entry) :
    c.NoNewLinks (c.dissolve id entries) := by
  intro above below lies
  rw [LiesOn, parent?_dissolve alive] at lies
  split at lies
  · cases lies
  · exact lies

section Requests

variable (c : Compositor)

theorem noNewLinks_destroy (id : WindowId) : c.NoNewLinks ((destroy id).after c) := by
  rw [Edit.after, destroy_eq]
  cases found : (c.unlink id).find? id with
  | none => exact .refl c
  | some window =>
      exact (c.noNewLinks_unlink id).trans (noNewLinks_dissolve (isAlive_of_find? found) _)

theorem noNewLinks_addSource (parent : WindowId) (source : Source) (x y : Int) :
    c.NoNewLinks ((addSource parent source x y).after c) := by
  rw [Edit.after, addSource_eq]
  cases c.find? parent with
  | none => exact .refl c
  | some window => exact c.noNewLinks_update parent _ fun _ => .inl rfl

theorem noNewLinks_removeEntry (parent : WindowId) (child : Child) :
    c.NoNewLinks ((removeEntry parent child).after c) := by
  rw [Edit.after, removeEntry_eq]
  cases c.find? parent with
  | none => exact .refl c
  | some window =>
      dsimp only
      cases window.indexOf? child with
      | none => exact .refl c
      | some index => exact c.noNewLinks_update parent _ fun _ => .inl rfl

theorem noNewLinks_remove (parent child : WindowId) :
    c.NoNewLinks ((remove parent child).after c) := by
  rw [Edit.after, remove_eq]
  cases c.find? child with
  | none => exact .refl c
  | some moved =>
      cases c.find? parent with
      | none => exact .refl c
      | some window =>
          dsimp only
          cases window.indexOf? (.window child) with
          | none => exact .refl c
          | some index => exact c.noNewLinks_detach parent child index

theorem noNewLinks_setOffset (parent : WindowId) (child : Child) (x y : Int) :
    c.NoNewLinks ((setOffset parent child x y).after c) := by
  rw [Edit.after, setOffset_eq]
  cases c.find? parent with
  | none => exact .refl c
  | some window =>
      dsimp only
      cases window.indexOf? child with
      | none => exact .refl c
      | some index => exact c.noNewLinks_update parent _ fun _ => .inl rfl

theorem noNewLinks_moveWindow (id : WindowId) (x y : Int) :
    c.NoNewLinks ((moveWindow id x y).after c) := by
  rw [Edit.after, moveWindow_eq]
  cases c.find? id with
  | none => exact .refl c
  | some window =>
      dsimp only
      cases window.parent with
      | none => exact .refl c
      | some parent => exact c.noNewLinks_setOffset parent (.window id) x y

theorem noNewLinks_paint {α : Type} (id : WindowId) (edit : Edit Pixmap α) :
    c.NoNewLinks ((paint id edit).after c) := by
  rw [Edit.after, paint_eq]
  cases c.find? id with
  | none => exact .refl c
  | some window =>
      dsimp only
      cases edit window.buffer <;> exact c.noNewLinks_update id _ fun _ => .inl rfl

theorem noNewLinks_drawWindow (target source : WindowId) (x y : Int) (flip : Flip) :
    c.NoNewLinks ((drawWindow target source x y flip).after c) := by
  rw [Edit.after, drawWindow_eq]
  cases c.snapshot source with
  | error cause => exact .refl c
  | ok picture => exact c.noNewLinks_paint target _

end Requests

/-- A window that has just been created has no link. -/
theorem noNewLinks_of_created {id : WindowId} {width height : Nat}
    (found : ∀ other, left.find? other =
      if other = id then some (Window.fresh width height) else c.find? other) :
    c.NoNewLinks left := by
  intro above below lies
  rw [LiesOn, parent?, found] at lies
  split at lies
  · cases lies
  · exact lies

/-- Laying a window on another one makes one link. -/
theorem liesOn_of_attach {parent child above below : WindowId} {x y : Int}
    (lies : (c.attach parent child x y).LiesOn above below) :
    c.LiesOn above below ∨ (above = child ∧ below = parent) := by
  have kept := (c.noNewLinks_unlink child).trans
    (noNewLinks_update (c.unlink child) parent (·.withEntry { node := .window child, x, y })
      fun _ => .inl rfl)
  rw [LiesOn, attach, parent?_update] at lies
  split at lies
  · next here =>
      obtain ⟨window, -, linked⟩ := Option.bind_eq_some_iff.mp lies
      exact .inr ⟨here, (Option.some.inj linked).symm⟩
  · exact .inl (kept above below lies)

theorem liesOn_of_add {parent child above below : WindowId} {x y : Int}
    (lies : ((add parent child x y).after c).LiesOn above below) :
    c.LiesOn above below ∨ (above = child ∧ below = parent) := by
  rw [Edit.after, add_eq] at lies
  cases base : c.find? parent with
  | none =>
      rw [base] at lies
      exact .inl lies
  | some window =>
      cases moved : c.find? child with
      | none =>
          rw [base, moved] at lies
          exact .inl lies
      | some other =>
          rw [base, moved] at lies
          by_cases cyclic : c.isAncestorOrSelf child parent = true
          · simp only [cyclic, if_true] at lies
            exact .inl lies
          · simp only [cyclic] at lies
            exact liesOn_of_attach lies

theorem Sound.liesOn_of_createChild (sound : c.Sound) {parent above below : WindowId} {x y : Int}
    {width height : Nat}
    (lies : ((Compositor.createChild parent x y width height).after c).LiesOn above below) :
    c.LiesOn above below ∨ (c.find? above = none ∧ below = parent) := by
  cases base : c.find? parent with
  | none =>
      have run : Compositor.createChild parent x y width height c =
          .error (.staleWindow parent) c := fetch_bind_of_none base
      rw [Edit.after_of_error run] at lies
      exact .inl lies
  | some window =>
      obtain ⟨id, middle, created, run, -⟩ :=
        sound.createChild_ok (isAlive_of_find? base) x y width height
      obtain ⟨id', middle', created', stale, -, found⟩ := sound.createWindow width height
      obtain ⟨rfl, rfl⟩ := EStateM.Result.ok.inj (created.symm.trans created')
      rw [Edit.after_of_ok run] at lies
      rcases liesOn_of_attach lies with before | ⟨rfl, rfl⟩
      · exact .inl (noNewLinks_of_created found above below before)
      · exact .inr ⟨stale, rfl⟩

/-- The requests that lay a window on another one: one that has been there before, or one that is
created for it and has no handle yet. -/
inductive Lays (c : Compositor) (above below : WindowId) : Action → Prop
  | add (x y : Int) : Lays c above below (.add below above x y)
  | createChild (unborn : c.find? above = none) (x y : Int) (width height : Nat) :
      Lays c above below (.createChild below x y width height)

/-- **A link comes only from a request that lays the one window on the other**, whether the upper
one has been there before or is created by the request. -/
theorem Sound.liesOn_of_perform (sound : c.Sound) {action : Action} {above below : WindowId}
    (lies : ((Compositor.perform action).after c).LiesOn above below) :
    c.LiesOn above below ∨ c.Lays above below action := by
  have cut {left : Compositor} (kept : c.NoNewLinks left) (lies : left.LiesOn above below) :
      c.LiesOn above below ∨ c.Lays above below action := .inl (kept above below lies)
  cases action with
  | createWindow width height =>
      obtain ⟨id, left, run, -, -, found⟩ := sound.createWindow width height
      rw [Compositor.perform, Edit.after_map, Edit.after_of_ok run] at lies
      exact cut (noNewLinks_of_created found) lies
  | createChild parent x y width height =>
      rw [Compositor.perform, Edit.after_map] at lies
      rcases sound.liesOn_of_createChild lies with before | ⟨unborn, rfl⟩
      · exact .inl before
      · exact .inr (.createChild unborn x y width height)
  | destroy id =>
      rw [Compositor.perform, Edit.after_map] at lies
      exact cut (c.noNewLinks_destroy id) lies
  | add parent child x y =>
      rw [Compositor.perform, Edit.after_map] at lies
      rcases liesOn_of_add lies with before | ⟨rfl, rfl⟩
      · exact .inl before
      · exact .inr (.add x y)
  | addSource parent source x y =>
      rw [Compositor.perform, Edit.after_map] at lies
      exact cut (c.noNewLinks_addSource parent source x y) lies
  | remove parent child =>
      rw [Compositor.perform, Edit.after_map] at lies
      exact cut (c.noNewLinks_remove parent child) lies
  | removeSource parent source =>
      rw [Compositor.perform, Edit.after_map] at lies
      exact cut (c.noNewLinks_removeEntry parent (.source source)) lies
  | moveWindow id x y =>
      rw [Compositor.perform, Edit.after_map] at lies
      exact cut (c.noNewLinks_moveWindow id x y) lies
  | moveSource parent source x y =>
      rw [Compositor.perform, Edit.after_map] at lies
      exact cut (c.noNewLinks_setOffset parent (.source source) x y) lies
  | drawWindow target source x y flip =>
      rw [Compositor.perform, Edit.after_map] at lies
      exact cut (c.noNewLinks_drawWindow target source x y flip) lies
  | paint id edit =>
      rw [Compositor.perform, Edit.after_map] at lies
      exact cut (c.noNewLinks_paint id edit) lies

/-! ## Along a run -/

theorem Sound.afterAll (sound : c.Sound) (actions : List Action) :
    (Edit.afterAll (actions.map Compositor.perform) c).Sound := by
  refine Edit.afterAll_keeps (motive := Sound) ?_ sound
  intro edit member state kept
  obtain ⟨action, -, rfl⟩ := List.mem_map.mp member
  exact kept.perform action

/-- A window outlives every request but the one to destroy it. -/
theorem Sound.isAlive_perform (sound : c.Sound) {id : WindowId} (alive : c.isAlive id = true)
    {action : Action} (spared : action ≠ .destroy id) :
    ((Compositor.perform action).after c).isAlive id = true := by
  rw [← ledger_names] at alive ⊢
  refine ((sound.leads_perform action).names_iff alive).mpr (.inl fun member => ?_)
  unfold events at member
  split at member
  · next answer _ =>
      unfold event? at member
      split at member <;> simp at member
      subst member
      exact spared rfl
  · cases member

/-- A window on nothing stays on nothing until it is laid on something or destroyed. -/
theorem Sound.not_liesOn_afterAll (sound : c.Sound) {id : WindowId} (alive : c.isAlive id = true)
    (loose : ∀ below, ¬ c.LiesOn id below) {actions : List Action}
    (spared : ∀ action ∈ actions,
      action ≠ .destroy id ∧ ∀ parent x y, action ≠ .add parent id x y) (below : WindowId) :
    ¬ (Edit.afterAll (actions.map Compositor.perform) c).LiesOn id below := by
  have kept : (Edit.afterAll (actions.map Compositor.perform) c).Sound ∧
      (Edit.afterAll (actions.map Compositor.perform) c).isAlive id = true ∧
      ∀ below, ¬ (Edit.afterAll (actions.map Compositor.perform) c).LiesOn id below := by
    refine Edit.afterAll_keeps
      (motive := fun c : Compositor =>
        c.Sound ∧ c.isAlive id = true ∧ ∀ below, ¬ c.LiesOn id below) ?_ ⟨sound, alive, loose⟩
    intro edit member state ⟨sound, alive, loose⟩
    obtain ⟨action, listed, rfl⟩ := List.mem_map.mp member
    obtain ⟨surviving, staying⟩ := spared action listed
    refine ⟨sound.perform action, sound.isAlive_perform alive surviving, fun below lies => ?_⟩
    rcases sound.liesOn_of_perform lies with before | laid
    · exact loose below before
    · cases laid with
      | add x y => exact staying below x y rfl
      | createChild unborn x y width height =>
          rw [isAlive, unborn] at alive
          cases alive
  exact kept.2.2 below

/-- Nothing is on a window on which nothing has been until something is laid or created there. -/
theorem Sound.not_liesOn_of_afterAll (sound : c.Sound) {id : WindowId}
    (bare : ∀ above, ¬ c.LiesOn above id) {actions : List Action}
    (spared : ∀ action ∈ actions, (∀ child x y, action ≠ .add id child x y) ∧
      ∀ x y width height, action ≠ .createChild id x y width height) (above : WindowId) :
    ¬ (Edit.afterAll (actions.map Compositor.perform) c).LiesOn above id := by
  have kept : (Edit.afterAll (actions.map Compositor.perform) c).Sound ∧
      ∀ above, ¬ (Edit.afterAll (actions.map Compositor.perform) c).LiesOn above id := by
    refine Edit.afterAll_keeps
      (motive := fun c : Compositor => c.Sound ∧ ∀ above, ¬ c.LiesOn above id) ?_ ⟨sound, bare⟩
    intro edit member state ⟨sound, bare⟩
    obtain ⟨action, listed, rfl⟩ := List.mem_map.mp member
    obtain ⟨unladen, childless⟩ := spared action listed
    refine ⟨sound.perform action, fun above lies => ?_⟩
    rcases sound.liesOn_of_perform lies with before | laid
    · exact bare above before
    · cases laid with
      | add x y => exact unladen above x y rfl
      | createChild unborn x y width height => exact childless x y width height rfl
  exact kept.2 above

end LedMatrix.Compositor
