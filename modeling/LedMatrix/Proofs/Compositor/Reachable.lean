/-
# The compositors that can be reached

`Compositor.Action` lists what callers can ask of a compositor, and a compositor is
reachable if some run of such requests makes it out of an empty one. Requests may
fail and handles may be stale, so a run can hold any requests in any order.

`Sound` is the invariant of all runs: the two records of the arrangement agree,
nothing lies on itself, and the list of empty slots is right. Every change that an
edit makes keeps it (`Sound.perform`), hence every run does (`Reachable.sound`).
-/

import LedMatrix.Proofs.Compositor.Edits

namespace LedMatrix.Compositor

/-- The arrangement and the slots of a compositor are in order. -/
structure Sound (c : Compositor) : Prop where
  linked : c.Linked
  stocked : c.Stocked

variable {c : Compositor}

/-! ## What each change keeps -/

/-- A new window has no link and no registry, and nothing is known of its handle. -/
theorem Linked.created (linked : c.Linked) {id : WindowId} {window : Window} {left : Compositor}
    (stale : c.find? id = none) (loose : window.parent = none) (bare : window.entries = [])
    (found : ∀ other, left.find? other = if other = id then some window else c.find? other) :
    left.Linked := by
  apply linked.of_same
  · intro other
    rw [parent?, parent?, found]
    by_cases here : other = id
    · rw [if_pos here, here, stale]
      exact loose
    · rw [if_neg here]
  · intro below other
    rw [mentions, mentions, found]
    by_cases here : below = id
    · rw [if_pos here, here, stale]
      simp [Window.children, bare]
    · rw [if_neg here]

/-- Nothing lies on a new window. -/
theorem Linked.not_liesOn_created (linked : c.Linked) {id : WindowId} {window : Window}
    {left : Compositor} (stale : c.find? id = none) (loose : window.parent = none)
    (found : ∀ other, left.find? other = if other = id then some window else c.find? other)
    (other : WindowId) : ¬ left.LiesOn other id := by
  intro link
  rw [LiesOn, parent?, found] at link
  by_cases here : other = id
  · rw [if_pos here, Option.bind_some, loose] at link
    cases link
  · rw [if_neg here] at link
    have alive := linked.isAlive_parent link
    rw [isAlive, stale] at alive
    cases alive

/-- Laying a window on one that does not lie on it. -/
theorem Linked.attach (linked : c.Linked) {parent child : WindowId}
    (below : c.isAlive parent = true) (above : c.isAlive child = true)
    (apart : ¬ c.isAncestorOrSelf child parent = true) (x y : Int) :
    (c.attach parent child x y).Linked := by
  rw [linked.isAncestorOrSelf_iff below] at apart
  rw [← isAlive_unlink c child] at below above
  obtain ⟨base, foundBase⟩ := isAlive_iff.mp below
  have loose : (c.unlink child).parent? child = none := by rw [parent?_unlink, if_pos rfl]
  have apart' : ¬ Relation.ReflTransGen (c.unlink child).LiesOn parent child := by
    intro way
    apply apart
    refine Relation.ReflTransGen.mono ?_ _ _ way
    intro a b step
    rw [LiesOn, parent?_unlink] at step
    split at step
    · cases step
    · exact step
  have links := (c.unlink child).parent?_update_of_same parent
    (·.withEntry { node := .window child, x, y }) fun _ => rfl
  have registries := ((c.unlink child).update parent
    (·.withEntry { node := .window child, x, y })).mentions_update_of_same child
      (fun window => { window with parent := some parent }) fun _ => rfl
  apply (linked.unlink child).of_join loose apart'
  · intro id
    rw [Compositor.attach, parent?_update, links]
    by_cases here : id = child
    · obtain ⟨moved, found⟩ := isAlive_iff.mp ((isAlive_update _ parent _ child).trans above)
      rw [if_pos here, if_pos here, found]
      rfl
    · rw [if_neg here, if_neg here]
  · intro p id
    rw [Compositor.attach, registries, mentions_update]
    by_cases here : p = parent
    · subst here
      rw [if_pos rfl, mentions, foundBase]
      simp only [Option.map_some, Option.getD_some, Window.count_withEntry, Node.child,
        Child.window.injEq, true_and, eq_comm]
      split <;> rfl
    · rw [if_neg here, if_neg fun both => here both.1]

/-- Taking a window off the one below it. Its entry is the only one, so taking out one
entry takes out all of them. -/
theorem Linked.detach (linked : c.Linked) {parent child : WindowId} {window : Window} {index : Nat}
    (below : c.find? parent = some window) (found : window.indexOf? (.window child) = some index) :
    (c.detach parent child index).Linked := by
  have mentioned : c.mentions parent child ≠ 0 := by
    rw [mentions_of_find? below]
    intro missing
    rw [Window.indexOf?_eq_none.mpr missing] at found
    cases found
  have link : c.parent? child = some parent := linked.parent?_of_mentions mentioned
  have links := c.parent?_update_of_same parent
    (fun window => { window with entries := window.entries.eraseIdx index }) fun _ => rfl
  have registries := (c.update parent fun window =>
    { window with entries := window.entries.eraseIdx index }).mentions_update_of_same child
      (fun window => { window with parent := none }) fun _ => rfl
  apply linked.of_cut (· = child)
  · intro id
    rw [Compositor.detach, parent?_update, links]
    by_cases here : id = child
    · rw [if_pos here, if_pos here]
      exact Option.bind_fun_none _
    · rw [if_neg here, if_neg here]
  · intro p id
    rw [Compositor.detach, registries, mentions_update]
    by_cases here : p = parent
    · subst here
      rw [if_pos rfl, below]
      simp only [Option.map_some, Option.getD_some, Window.count_eraseIdx found,
        Child.window.injEq]
      by_cases same : id = child
      · subst same
        rw [if_pos rfl, if_pos rfl, ← mentions_of_find? below, linked.mentions_eq, if_pos link]
      · rw [if_neg same, if_neg (Ne.symm same), mentions_of_find? below]
        rfl
    · rw [if_neg here]
      by_cases same : id = child
      · rw [if_pos same, same, linked.mentions_eq, link, if_neg]
        exact fun agree => here (Option.some.inj agree).symm
      · rw [if_neg same]

/-- After a window is gone, what lay on it lies on nothing. -/
theorem find?_dissolve {id : WindowId} (alive : c.isAlive id = true) (entries : List Entry)
    (other : WindowId) :
    (c.dissolve id entries).find? other =
      if other = id then none
      else (c.find? other).map fun window =>
        if Child.window other ∈ entries.map (·.node.child) then { window with parent := none }
        else window := by
  rw [dissolve, find?_orphanAll, find?_vacate alive]
  by_cases here : other = id
  · rw [if_pos here, if_pos here]
    rfl
  · rw [if_neg here, if_neg here]

theorem parent?_dissolve {id : WindowId} (alive : c.isAlive id = true) (entries : List Entry)
    (other : WindowId) :
    (c.dissolve id entries).parent? other =
      if other = id ∨ Child.window other ∈ entries.map (·.node.child) then none
      else c.parent? other := by
  rw [parent?, find?_dissolve alive]
  by_cases here : other = id
  · rw [if_pos here, if_pos (.inl here)]
    rfl
  · rw [if_neg here, Option.bind_map]
    by_cases lay : Child.window other ∈ entries.map (·.node.child)
    · rw [if_pos (.inr lay)]
      simp only [lay, if_true]
      exact Option.bind_fun_none _
    · rw [if_neg fun cut => cut.elim here lay]
      simp only [lay, if_false]
      rfl

/-- The registry of the window is gone and all others stay. -/
theorem mentions_dissolve {id : WindowId} (alive : c.isAlive id = true) (entries : List Entry)
    (below other : WindowId) :
    (c.dissolve id entries).mentions below other =
      if below = id then 0 else c.mentions below other := by
  rw [mentions, find?_dissolve alive, mentions]
  by_cases here : below = id
  · rw [if_pos here, if_pos here]
    rfl
  · rw [if_neg here, if_neg here, Option.map_map]
    refine congrArg (Option.getD · 0) (congrArg (Option.map · (c.find? below)) ?_)
    funext window
    simp only [Function.comp_apply]
    split <;> rfl

/-- Destroying a window that lies on nothing. -/
theorem Linked.dissolve (linked : c.Linked) {id : WindowId} {window : Window}
    (found : c.find? id = some window) (loose : c.parent? id = none) :
    (c.dissolve id window.entries).Linked := by
  have alive := isAlive_of_find? found
  have above (other : WindowId) :
      Child.window other ∈ window.entries.map (·.node.child) ↔ c.parent? other = some id :=
    linked.mem_children_iff found other
  apply linked.of_cut fun other => other = id ∨ c.parent? other = some id
  · intro other
    rw [parent?_dissolve alive]
    simp only [above]
  · intro below other
    rw [mentions_dissolve alive, linked.mentions_eq]
    by_cases here : below = id
    · subst here
      rw [if_pos rfl]
      by_cases lay : c.parent? other = some below
      · rw [if_pos (.inr lay)]
      · rw [if_neg lay, ite_self]
    · rw [if_neg here]
      by_cases cut : other = id ∨ c.parent? other = some id
      · rw [if_pos cut, if_neg]
        rcases cut with rfl | lay
        · simp [loose]
        · simpa [lay] using Ne.symm here
      · rw [if_neg cut]

namespace Sound

variable (sound : c.Sound)
include sound

theorem update {id : WindowId} {change : Window → Window}
    (links : ∀ window, c.find? id = some window → (change window).parent = window.parent)
    (registry : ∀ window, c.find? id = some window → ∀ other,
      (change window).children.count (Child.window other) =
        window.children.count (Child.window other)) :
    (c.update id change).Sound :=
  ⟨sound.linked.update links registry, sound.stocked.update id change⟩

/-- Creating a window succeeds, and the new one lies on nothing. -/
theorem createWindow (width height : Nat) :
    ∃ id left, Compositor.createWindow width height c = .ok id left ∧ c.find? id = none ∧
      left.Sound ∧ ∀ other, left.find? other =
        if other = id then some (Window.fresh width height) else c.find? other := by
  obtain ⟨id, left, run, stale, stocked, found⟩ := createWindow_ok sound.stocked width height
  exact ⟨id, left, run, stale, ⟨sound.linked.created stale rfl rfl found, stocked⟩, found⟩

theorem attach {parent child : WindowId} (below : c.isAlive parent = true)
    (above : c.isAlive child = true) (apart : ¬ c.isAncestorOrSelf child parent = true)
    (x y : Int) : (c.attach parent child x y).Sound :=
  ⟨sound.linked.attach below above apart x y,
    ((sound.stocked.unlink child).update parent _).update child _⟩

theorem add (parent child : WindowId) (x y : Int) :
    ((Compositor.add parent child x y).after c).Sound := by
  rw [Edit.after, add_eq]
  cases below : c.find? parent with
  | none => exact sound
  | some base =>
      cases above : c.find? child with
      | none => exact sound
      | some moved =>
          by_cases cyclic : c.isAncestorOrSelf child parent = true
          · simp only [cyclic, if_true]
            exact sound
          · simp only [cyclic]
            exact sound.attach (isAlive_of_find? below) (isAlive_of_find? above)
              cyclic x y

/-- Creating a window on a live one succeeds, because nothing lies on a new window. -/
theorem createChild_ok {parent : WindowId} (below : c.isAlive parent = true) (x y : Int)
    (width height : Nat) :
    ∃ id left, Compositor.createWindow width height c = .ok id left ∧
      createChild parent x y width height c = .ok id (left.attach parent id x y) ∧
      (left.attach parent id x y).Sound := by
  obtain ⟨id, left, run, stale, created, found⟩ := sound.createWindow width height
  obtain ⟨window, base⟩ := isAlive_iff.mp below
  have distinct : parent ≠ id := by
    rintro rfl
    rw [stale] at base
    cases base
  have foundParent : left.find? parent = some window := by rw [found, if_neg distinct, base]
  have foundChild : left.find? id = some (Window.fresh width height) := by rw [found, if_pos rfl]
  have belowLeft : left.isAlive parent = true := isAlive_of_find? foundParent
  have apart : ¬ left.isAncestorOrSelf id parent = true := by
    rw [created.linked.isAncestorOrSelf_iff belowLeft]
    intro way
    rcases Relation.ReflTransGen.cases_tail way with same | ⟨other, -, link⟩
    · exact distinct same.symm
    · exact sound.linked.not_liesOn_created stale rfl found other link
  have laid : Compositor.add parent id x y left = .ok () (left.attach parent id x y) := by
    rw [add_eq, foundParent, foundChild]
    exact if_neg apart
  refine ⟨id, left, run, ?_, created.attach belowLeft (isAlive_of_find? foundChild) apart x y⟩
  exact (fetch_bind_of_some base).trans ((Edit.bind_of_ok run).trans (Edit.bind_of_ok laid))

theorem createChild (parent : WindowId) (x y : Int) (width height : Nat) :
    ((Compositor.createChild parent x y width height).after c).Sound := by
  cases base : c.find? parent with
  | none =>
      have run :
          Compositor.createChild parent x y width height c = .error (.staleWindow parent) c :=
        fetch_bind_of_none base
      rwa [Edit.after_of_error run]
  | some window =>
      obtain ⟨id, left, -, run, kept⟩ :=
        sound.createChild_ok (isAlive_of_find? base) x y width height
      rwa [Edit.after_of_ok run]

theorem destroy (id : WindowId) : ((Compositor.destroy id).after c).Sound := by
  rw [Edit.after, destroy_eq]
  cases found : (c.unlink id).find? id with
  | none => exact sound
  | some window =>
      have loose : (c.unlink id).parent? id = none := by rw [parent?_unlink, if_pos rfl]
      have alive := isAlive_of_find? found
      exact ⟨(sound.linked.unlink id).dissolve found loose,
        ((sound.stocked.unlink id).vacate alive).orphanAll window.entries⟩

theorem addSource (parent : WindowId) (source : Source) (x y : Int) :
    ((Compositor.addSource parent source x y).after c).Sound := by
  rw [Edit.after, addSource_eq]
  cases c.find? parent with
  | none => exact sound
  | some window =>
      have laid : (c.update parent
          (·.withEntry { node := .source ⟨c.nextSource⟩ source, x, y })).Sound := by
        refine sound.update (fun _ _ => rfl) ?_
        intro window _ other
        rw [Window.count_withEntry]
        simp [Node.child]
      -- The count of registrations plays no part in the invariant.
      exact ⟨⟨laid.linked.mentions_eq, laid.linked.acyclic⟩,
        ⟨laid.stocked.nodup_free, laid.stocked.mem_free⟩⟩

theorem remove (parent child : WindowId) : ((Compositor.remove parent child).after c).Sound := by
  rw [Edit.after, remove_eq]
  cases c.find? child with
  | none => exact sound
  | some moved =>
      cases below : c.find? parent with
      | none => exact sound
      | some window =>
          dsimp only
          cases found : window.indexOf? (.window child) with
          | none => exact sound
          | some index =>
              exact ⟨sound.linked.detach below found,
                (sound.stocked.update parent _).update child _⟩

theorem removeSource (parent : WindowId) (source : SourceId) :
    ((Compositor.removeSource parent source).after c).Sound := by
  rw [Edit.after, Compositor.removeSource, removeEntry_eq]
  cases below : c.find? parent with
  | none => exact sound
  | some window =>
      dsimp only
      cases found : window.indexOf? (.source source) with
      | none => exact sound
      | some index =>
          refine sound.update (fun _ _ => rfl) ?_
          intro other same id
          obtain rfl : window = other := Option.some.inj (below.symm.trans same)
          rw [Window.count_eraseIdx found]
          simp

theorem setOffset (parent : WindowId) (child : Child) (x y : Int) :
    ((Compositor.setOffset parent child x y).after c).Sound := by
  rw [Edit.after, setOffset_eq]
  cases c.find? parent with
  | none => exact sound
  | some window =>
      dsimp only
      cases window.indexOf? child with
      | none => exact sound
      | some index =>
          refine sound.update (fun _ _ => rfl) ?_
          intro other _ id
          rw [Window.children_modify]

theorem moveWindow (id : WindowId) (x y : Int) :
    ((Compositor.moveWindow id x y).after c).Sound := by
  rw [Edit.after, moveWindow_eq]
  cases c.find? id with
  | none => exact sound
  | some window =>
      dsimp only
      cases window.parent with
      | none => exact sound
      | some parent => exact sound.setOffset parent (.window id) x y

theorem paint {α : Type} (id : WindowId) (edit : Edit Pixmap α) :
    ((Compositor.paint id edit).after c).Sound := by
  rw [Edit.after, paint_eq]
  cases c.find? id with
  | none => exact sound
  | some window =>
      dsimp only
      cases edit window.buffer with
      | ok answer buffer => exact sound.update (fun _ _ => rfl) fun _ _ _ => rfl
      | error cause buffer => exact sound.update (fun _ _ => rfl) fun _ _ _ => rfl

theorem drawWindow (target source : WindowId) (x y : Int) (flip : Flip) :
    ((Compositor.drawWindow target source x y flip).after c).Sound := by
  rw [Edit.after, drawWindow_eq]
  cases c.snapshot source with
  | error cause => exact sound
  | ok picture => exact sound.paint target _

end Sound

/-! ## Requests and runs -/

/-- What callers can ask of a compositor. -/
inductive Action where
  | createWindow (width height : Nat)
  | createChild (parent : WindowId) (x y : Int) (width height : Nat)
  | destroy (id : WindowId)
  | add (parent child : WindowId) (x y : Int)
  | addSource (parent : WindowId) (source : Source) (x y : Int)
  | remove (parent child : WindowId)
  | removeSource (parent : WindowId) (source : SourceId)
  | moveWindow (id : WindowId) (x y : Int)
  | moveSource (parent : WindowId) (source : SourceId) (x y : Int)
  | drawWindow (target source : WindowId) (x y : Int) (flip : Flip)
  /-- Anything at all that is done to a window's own picture. -/
  | paint (id : WindowId) (edit : Edit Pixmap Unit)

/-- What callers are told when a request succeeds. -/
inductive Answer where
  | done
  | window (id : WindowId)
  | source (id : SourceId)

/-- Do what is asked. -/
def perform : Action → Edit Compositor Answer
  | .createWindow width height => .window <$> createWindow width height
  | .createChild parent x y width height => .window <$> createChild parent x y width height
  | .destroy id => (fun _ => .done) <$> destroy id
  | .add parent child x y => (fun _ => .done) <$> add parent child x y
  | .addSource parent source x y => .source <$> addSource parent source x y
  | .remove parent child => (fun _ => .done) <$> remove parent child
  | .removeSource parent source => (fun _ => .done) <$> removeSource parent source
  | .moveWindow id x y => (fun _ => .done) <$> moveWindow id x y
  | .moveSource parent source x y => (fun _ => .done) <$> moveSource parent source x y
  | .drawWindow target source x y flip => (fun _ => .done) <$> drawWindow target source x y flip
  | .paint id edit => (fun _ => .done) <$> paint id edit

/-- **No request breaks the invariant**, whether it succeeds or fails. -/
theorem Sound.perform (sound : c.Sound) (action : Action) :
    ((perform action).after c).Sound := by
  cases action with
  | createWindow width height =>
      obtain ⟨id, left, run, -, kept, -⟩ := sound.createWindow width height
      rwa [Compositor.perform, Edit.after_map, Edit.after_of_ok run]
  | createChild parent x y width height =>
      rw [Compositor.perform, Edit.after_map]
      exact sound.createChild parent x y width height
  | destroy id =>
      rw [Compositor.perform, Edit.after_map]
      exact sound.destroy id
  | add parent child x y =>
      rw [Compositor.perform, Edit.after_map]
      exact sound.add parent child x y
  | addSource parent source x y =>
      rw [Compositor.perform, Edit.after_map]
      exact sound.addSource parent source x y
  | remove parent child =>
      rw [Compositor.perform, Edit.after_map]
      exact sound.remove parent child
  | removeSource parent source =>
      rw [Compositor.perform, Edit.after_map]
      exact sound.removeSource parent source
  | moveWindow id x y =>
      rw [Compositor.perform, Edit.after_map]
      exact sound.moveWindow id x y
  | moveSource parent source x y =>
      rw [Compositor.perform, Edit.after_map]
      exact sound.setOffset parent (.source source) x y
  | drawWindow target source x y flip =>
      rw [Compositor.perform, Edit.after_map]
      exact sound.drawWindow target source x y flip
  | paint id edit =>
      rw [Compositor.perform, Edit.after_map]
      exact sound.paint id edit

/-- The compositor at the end of a run of requests that begins without windows. -/
def run (actions : List Action) : Compositor := Edit.afterAll (actions.map perform) empty

theorem run_append (earlier later : List Action) :
    run (earlier ++ later) = Edit.afterAll (later.map perform) (run earlier) := by
  rw [run, List.map_append, Edit.afterAll_append, run]

/-- Some run of requests leads to this compositor. -/
def Reachable (c : Compositor) : Prop := ∃ actions, run actions = c

/-- Without windows there is nothing that could be out of order. -/
theorem sound_empty : empty.Sound where
  linked := {
    mentions_eq := fun below id => by simp [mentions, parent?, find?, empty]
    acyclic := fun id cycle => by
      obtain ⟨below, link, -⟩ := Relation.TransGen.head'_iff.mp cycle
      simp [LiesOn, parent?, find?, empty] at link }
  stocked := {
    nodup_free := List.nodup_nil
    mem_free := fun slot => by simp [Vacant, empty] }

theorem sound_run (actions : List Action) : (run actions).Sound := by
  apply Edit.afterAll_keeps (motive := Sound) _ sound_empty
  intro edit member state kept
  obtain ⟨action, -, rfl⟩ := List.mem_map.mp member
  exact kept.perform action

theorem Reachable.sound (reachable : c.Reachable) : c.Sound := by
  obtain ⟨actions, rfl⟩ := reachable
  exact sound_run actions

end LedMatrix.Compositor
