/-
# What a window shows depends on what lies on it

A request writes a few windows: the one whose own picture is painted on, those whose registries
gain, lose or move an entry, the one that is destroyed. All other windows keep their picture and
their registry (`untouched_perform`), though they may come to lie on something else.

The picture of a window is put together from the pictures and the registries of the windows that
lie on it, directly or further up, and from nothing else (`Linked.view_eq`). So a request that
writes none of them leaves it as it is, and so does every request that only changes where the
window itself lies.
-/

import LedMatrix.Proofs.Compositor.Reading

namespace LedMatrix.Compositor

variable {c left : Compositor}

/-! ## Windows that are left alone -/

/-- A window keeps its own picture and its registry. What it lies on may be another. -/
def Untouched (c left : Compositor) (id : WindowId) : Prop :=
  ∀ window, c.find? id = some window → ∃ parent, left.find? id = some { window with parent }

theorem Untouched.refl (c : Compositor) (id : WindowId) : c.Untouched c id :=
  fun window found => ⟨window.parent, found⟩

theorem Untouched.trans {middle : Compositor} {id : WindowId} (first : c.Untouched middle id)
    (second : middle.Untouched left id) : c.Untouched left id := by
  intro window found
  obtain ⟨between, foundBetween⟩ := first window found
  exact second { window with parent := between } foundBetween

/-- A window of which nothing is changed at all. -/
theorem Untouched.of_find? {id : WindowId} (same : left.find? id = c.find? id) :
    c.Untouched left id :=
  fun window found => ⟨window.parent, same.trans found⟩

theorem untouched_update_of_ne {id other : WindowId} (distinct : other ≠ id)
    (change : Window → Window) : c.Untouched (c.update id change) other :=
  .of_find? (c.find?_update_of_ne change distinct)

/-- Another link of a window leaves all windows alone. -/
theorem untouched_relink (c : Compositor) (id : WindowId) (parent : Option WindowId)
    (other : WindowId) : c.Untouched (c.update id fun window => { window with parent }) other := by
  intro window found
  rw [find?_update, found]
  by_cases here : other = id
  · exact ⟨parent, if_pos here⟩
  · exact ⟨window.parent, if_neg here⟩

/-- A window that is taken off another one leaves all but that one alone. -/
theorem untouched_unlink {id other : WindowId} (elsewhere : c.parent? id ≠ some other) :
    c.Untouched (c.unlink id) other := by
  intro window found
  rw [find?_unlink, found]
  simp only [elsewhere, if_false, Option.map_some]
  exact ⟨_, rfl⟩

theorem untouched_attach {parent child other : WindowId} (elsewhere : c.parent? child ≠ some other)
    (distinct : other ≠ parent) (x y : Int) : c.Untouched (c.attach parent child x y) other :=
  ((untouched_unlink elsewhere).trans (untouched_update_of_ne distinct _)).trans
    (untouched_relink _ child (some parent) other)

theorem untouched_detach {parent other : WindowId} (distinct : other ≠ parent) (child : WindowId)
    (index : Nat) : c.Untouched (c.detach parent child index) other :=
  (untouched_update_of_ne distinct _).trans (untouched_relink _ child none other)

/-- What lay on a window that is gone lies on nothing. -/
theorem untouched_dissolve {id other : WindowId} (alive : c.isAlive id = true)
    (distinct : other ≠ id) (entries : List Entry) :
    c.Untouched (c.dissolve id entries) other := by
  intro window found
  rw [find?_dissolve alive, if_neg distinct, found]
  by_cases lay : Child.window other ∈ entries.map (·.node.child)
  · exact ⟨none, by simp only [lay, if_true, Option.map_some]⟩
  · exact ⟨window.parent, by simp only [lay, if_false, Option.map_some]⟩

/-- A new window leaves all windows alone that are there. -/
theorem Untouched.of_created {id : WindowId} {created : Window} (stale : c.find? id = none)
    (found : ∀ other, left.find? other = if other = id then some created else c.find? other)
    (other : WindowId) : c.Untouched left other := by
  intro window here
  refine ⟨window.parent, ?_⟩
  rw [found, if_neg, here]
  rintro rfl
  cases stale.symm.trans here

/-! ## What a request writes -/

/-- The windows that a request is about to write: those on whose own picture it paints, those
whose registries it changes, and the one that it destroys. -/
def targets (c : Compositor) : Action → List WindowId
  | .createWindow _ _ => []
  | .createChild parent _ _ _ _ => [parent]
  | .destroy id => id :: (c.parent? id).toList
  | .add parent child _ _ => parent :: (c.parent? child).toList
  | .addSource parent _ _ _ => [parent]
  | .remove parent _ => [parent]
  | .removeSource parent _ => [parent]
  | .moveWindow id _ _ => (c.parent? id).toList
  | .moveSource parent _ _ _ => [parent]
  | .drawWindow target _ _ _ _ => [target]
  | .paint id _ => [id]

/-- A request writes those of its targets that are not left alone. One that is refused before it
has changed anything writes nothing. -/
def Writes (c : Compositor) (action : Action) (id : WindowId) : Prop :=
  id ∈ c.targets action ∧ ¬ c.Untouched ((perform action).after c) id

section Requests

variable {other : WindowId}

theorem Sound.untouched_createWindow (sound : c.Sound) (width height : Nat) :
    c.Untouched ((Compositor.createWindow width height).after c) other := by
  obtain ⟨id, left, run, stale, -, found⟩ := sound.createWindow width height
  rw [Edit.after_of_ok run]
  exact .of_created stale found other

theorem Sound.untouched_createChild (sound : c.Sound) {parent : WindowId} (distinct : other ≠ parent)
    (x y : Int) (width height : Nat) :
    c.Untouched ((Compositor.createChild parent x y width height).after c) other := by
  cases base : c.find? parent with
  | none =>
      have run : Compositor.createChild parent x y width height c = .error (.staleWindow parent) c :=
        fetch_bind_of_none base
      rw [Edit.after_of_error run]
      exact .refl c other
  | some window =>
      obtain ⟨id, middle, created, run, -⟩ :=
        sound.createChild_ok (isAlive_of_find? base) x y width height
      obtain ⟨id', middle', created', stale, -, found⟩ := sound.createWindow width height
      obtain ⟨rfl, rfl⟩ := EStateM.Result.ok.inj (created.symm.trans created')
      -- The new window does not lie on anything yet, so it is taken off nothing.
      have loose : middle.parent? id = none := by
        rw [parent?, found, if_pos rfl]
        rfl
      have elsewhere : middle.parent? id ≠ some other := by
        rw [loose]
        exact Option.some_ne_none other ∘ Eq.symm
      rw [Edit.after_of_ok run]
      exact (Untouched.of_created stale found other).trans (untouched_attach elsewhere distinct x y)

theorem untouched_destroy {id : WindowId} (distinct : other ≠ id)
    (elsewhere : c.parent? id ≠ some other) : c.Untouched ((destroy id).after c) other := by
  rw [Edit.after, destroy_eq]
  cases found : (c.unlink id).find? id with
  | none => exact .refl c other
  | some window =>
      exact (untouched_unlink elsewhere).trans
        (untouched_dissolve (isAlive_of_find? found) distinct window.entries)

theorem untouched_add {parent child : WindowId} (distinct : other ≠ parent)
    (elsewhere : c.parent? child ≠ some other) (x y : Int) :
    c.Untouched ((add parent child x y).after c) other := by
  rw [Edit.after, add_eq]
  cases c.find? parent with
  | none => exact .refl c other
  | some base =>
      cases c.find? child with
      | none => exact .refl c other
      | some moved =>
          by_cases cyclic : c.isAncestorOrSelf child parent = true
          · simp only [cyclic, if_true]
            exact .refl c other
          · simp only [cyclic]
            exact untouched_attach elsewhere distinct x y

theorem untouched_addSource {parent : WindowId} (distinct : other ≠ parent) (source : Source)
    (x y : Int) : c.Untouched ((addSource parent source x y).after c) other := by
  rw [Edit.after, addSource_eq]
  cases c.find? parent with
  | none => exact .refl c other
  | some window =>
      exact .of_find? (c.find?_update_of_ne _ distinct)

theorem untouched_remove {parent : WindowId} (distinct : other ≠ parent) (child : WindowId) :
    c.Untouched ((remove parent child).after c) other := by
  rw [Edit.after, remove_eq]
  cases c.find? child with
  | none => exact .refl c other
  | some moved =>
      cases c.find? parent with
      | none => exact .refl c other
      | some window =>
          dsimp only
          cases window.indexOf? (.window child) with
          | none => exact .refl c other
          | some index => exact untouched_detach distinct child index

theorem untouched_removeEntry {parent : WindowId} (distinct : other ≠ parent) (child : Child) :
    c.Untouched ((removeEntry parent child).after c) other := by
  rw [Edit.after, removeEntry_eq]
  cases c.find? parent with
  | none => exact .refl c other
  | some window =>
      dsimp only
      cases window.indexOf? child with
      | none => exact .refl c other
      | some index => exact untouched_update_of_ne distinct _

theorem untouched_setOffset {parent : WindowId} (distinct : other ≠ parent) (child : Child)
    (x y : Int) : c.Untouched ((setOffset parent child x y).after c) other := by
  rw [Edit.after, setOffset_eq]
  cases c.find? parent with
  | none => exact .refl c other
  | some window =>
      dsimp only
      cases window.indexOf? child with
      | none => exact .refl c other
      | some index => exact untouched_update_of_ne distinct _

theorem untouched_moveWindow {id : WindowId} (elsewhere : c.parent? id ≠ some other) (x y : Int) :
    c.Untouched ((moveWindow id x y).after c) other := by
  rw [Edit.after, moveWindow_eq]
  cases found : c.find? id with
  | none => exact .refl c other
  | some window =>
      dsimp only
      cases link : window.parent with
      | none => exact .refl c other
      | some below =>
          refine untouched_setOffset ?_ (.window id) x y
          rintro rfl
          exact elsewhere ((parent?_of_find? found).trans link)

theorem untouched_paint {α : Type} {id : WindowId} (distinct : other ≠ id) (edit : Edit Pixmap α) :
    c.Untouched ((paint id edit).after c) other := by
  rw [Edit.after, paint_eq]
  cases c.find? id with
  | none => exact .refl c other
  | some window =>
      dsimp only
      cases edit window.buffer with
      | ok answer buffer => exact untouched_update_of_ne distinct _
      | error cause buffer => exact untouched_update_of_ne distinct _

theorem untouched_drawWindow {target : WindowId} (distinct : other ≠ target) (source : WindowId)
    (x y : Int) (flip : Flip) :
    c.Untouched ((drawWindow target source x y flip).after c) other := by
  rw [Edit.after, drawWindow_eq]
  cases c.snapshot source with
  | error cause => exact .refl c other
  | ok picture => exact untouched_paint distinct _

/-- **A request leaves all windows alone but its targets**, whether it succeeds or fails. -/
theorem Sound.untouched_perform (sound : c.Sound) {action : Action}
    (apart : other ∉ c.targets action) :
    c.Untouched ((Compositor.perform action).after c) other := by
  cases action with
  | createWindow width height =>
      rw [Compositor.perform, Edit.after_map]
      exact sound.untouched_createWindow width height
  | createChild parent x y width height =>
      rw [Compositor.perform, Edit.after_map]
      exact sound.untouched_createChild (List.ne_of_not_mem_cons apart) x y width height
  | destroy id =>
      rw [Compositor.perform, Edit.after_map]
      obtain ⟨distinct, elsewhere⟩ := not_or.mp (mt List.mem_cons.mpr apart)
      exact untouched_destroy distinct (mt Option.mem_toList.mpr elsewhere)
  | add parent child x y =>
      rw [Compositor.perform, Edit.after_map]
      obtain ⟨distinct, elsewhere⟩ := not_or.mp (mt List.mem_cons.mpr apart)
      exact untouched_add distinct (mt Option.mem_toList.mpr elsewhere) x y
  | addSource parent source x y =>
      rw [Compositor.perform, Edit.after_map]
      exact untouched_addSource (List.ne_of_not_mem_cons apart) source x y
  | remove parent child =>
      rw [Compositor.perform, Edit.after_map]
      exact untouched_remove (List.ne_of_not_mem_cons apart) child
  | removeSource parent source =>
      rw [Compositor.perform, Edit.after_map]
      exact untouched_removeEntry (List.ne_of_not_mem_cons apart) (.source source)
  | moveWindow id x y =>
      rw [Compositor.perform, Edit.after_map]
      exact untouched_moveWindow (mt Option.mem_toList.mpr apart) x y
  | moveSource parent source x y =>
      rw [Compositor.perform, Edit.after_map]
      exact untouched_setOffset (List.ne_of_not_mem_cons apart) (.source source) x y
  | drawWindow target source x y flip =>
      rw [Compositor.perform, Edit.after_map]
      exact untouched_drawWindow (List.ne_of_not_mem_cons apart) source x y flip
  | paint id edit =>
      rw [Compositor.perform, Edit.after_map]
      exact untouched_paint (List.ne_of_not_mem_cons apart) edit

end Requests

/-! ## Pictures -/

/-- **The picture of a window is put together from what lies on it.** Take two arrangements in
which the window and everything on it have the same pictures of their own and the same registries,
except for some windows that are known to look the same. Then the window looks the same. -/
theorem Linked.view_eq_of_untouched_or_same (linked : c.Linked) (linked' : left.Linked)
    {id : WindowId} {window : Window} (found : c.find? id = some window)
    (kept : ∀ above, Relation.ReflTransGen c.LiesOn above id →
      c.Untouched left above ∨ left.view above = c.view above) :
    left.view id = c.view id := by
  induction id, window, found using linked.induction_above with
  | step id window found ih =>
      rcases kept id .refl with untouched | same
      · obtain ⟨parent, found'⟩ := untouched window found
        have layers : ∀ entry ∈ window.entries, left.layer entry.node = c.layer entry.node := by
          intro entry member
          cases named : entry.node with
          | source number source => rfl
          | window above =>
              obtain ⟨child, foundChild, link, -⟩ :=
                linked.exists_find?_of_mem found member named
              exact ih above child foundChild link fun other way => kept other (way.tail link)
        -- The link of a window plays no part in how it is read.
        have read : left.read { window with parent } = c.read window := by
          rw [linked'.read_eq found', linked.read_eq found]
          change readOver left.layer window = readOver c.layer window
          exact readOver_congr layers
        rw [view_of_find? found', view_of_find? found, read]
        rfl
      · exact same

theorem Linked.view_eq (linked : c.Linked) (linked' : left.Linked) {id : WindowId} {window : Window}
    (found : c.find? id = some window)
    (kept : ∀ above, Relation.ReflTransGen c.LiesOn above id → c.Untouched left above) :
    left.view id = c.view id :=
  linked.view_eq_of_untouched_or_same linked' found fun above way => .inl (kept above way)

/-- A window looks the same in two compositors. It can be looked at in both, with the same size and
the same background, and every position is read alike, also where there is nothing to read. -/
structure LooksAlike (c left : Compositor) (id : WindowId) : Prop where
  view : ∃ view, c.view id = .ok view ∧ left.view id = .ok view
  pixel : ∀ x y : Int, left.pixel id x y = c.pixel id x y

theorem LooksAlike.of_view_eq {id : WindowId} {window : Window} (found : c.find? id = some window)
    (alive : left.isAlive id = true) (same : left.view id = c.view id) : c.LooksAlike left id := by
  obtain ⟨window', found'⟩ := isAlive_iff.mp alive
  have shown := view_of_find? found
  refine ⟨⟨_, shown, same.trans shown⟩, fun x y => ?_⟩
  rw [view_of_find? found', shown] at same
  rw [pixel_of_find? found', pixel_of_find? found]
  exact congrArg (Source.pixel · x y) (Except.ok.inj same)

/-! ## Requests about where a window lies -/

/-- The requests that change where a window lies but nothing that lies on it: it is moved, laid on
another window or taken off, the window below it is destroyed, or a new window is put into a slot,
which may have been used before. -/
inductive Rearranges (c : Compositor) (id : WindowId) : Action → Prop
  | moved (x y : Int) : Rearranges c id (.moveWindow id x y)
  | laid (parent : WindowId) (x y : Int) : Rearranges c id (.add parent id x y)
  | removed (parent : WindowId) : Rearranges c id (.remove parent id)
  | bereft {below : WindowId} (link : c.parent? id = some below) : Rearranges c id (.destroy below)
  | created (width height : Nat) : Rearranges c id (.createWindow width height)
  | createdOn {parent : WindowId} (apart : ¬ Relation.ReflTransGen c.LiesOn parent id) (x y : Int)
      (width height : Nat) : Rearranges c id (.createChild parent x y width height)

namespace Linked

variable (linked : c.Linked) {id parent : WindowId}
include linked

/-- What a window lies on does not lie on the window. -/
theorem not_reflTransGen_parent (link : c.parent? id = some parent) :
    ¬ Relation.ReflTransGen c.LiesOn parent id :=
  fun way => linked.acyclic id (.head' link way)

/-- A window is not laid on itself or on what lies on it. -/
theorem after_add_of_reflTransGen (way : Relation.ReflTransGen c.LiesOn parent id) (x y : Int) :
    (add parent id x y).after c = c := by
  rw [Edit.after, add_eq]
  cases below : c.find? parent with
  | none => rfl
  | some base =>
      have cyclic := (linked.isAncestorOrSelf_iff (isAlive_of_find? below)).mpr way
      cases c.find? id with
      | none => rfl
      | some moved => simp only [cyclic, if_true]

/-- A window is taken off nothing but what it lies on. -/
theorem after_remove_of_ne (loose : c.parent? id ≠ some parent) :
    (remove parent id).after c = c := by
  rw [Edit.after, remove_eq]
  cases c.find? id with
  | none => rfl
  | some moved =>
      cases below : c.find? parent with
      | none => rfl
      | some base =>
          have missing : base.indexOf? (.window id) = none := by
            rw [Window.indexOf?_eq_none, ← mentions_of_find? below, linked.mentions_eq,
              if_neg loose]
          simp only [missing]

/-- A request about where a window lies writes neither the window nor what lies on it. -/
theorem not_reflTransGen_of_rearranges {action : Action} (rearranges : c.Rearranges id action)
    {other : WindowId} (writes : c.Writes action other) :
    ¬ Relation.ReflTransGen c.LiesOn other id := by
  obtain ⟨target, changed⟩ := writes
  cases rearranges with
  | moved x y => exact linked.not_reflTransGen_parent (Option.mem_toList.mp target)
  | laid parent x y =>
      rcases List.mem_cons.mp target with rfl | lost
      · intro way
        rw [perform, Edit.after_map, linked.after_add_of_reflTransGen way] at changed
        exact changed (.refl c other)
      · exact linked.not_reflTransGen_parent (Option.mem_toList.mp lost)
  | removed parent =>
      obtain rfl := List.mem_singleton.mp target
      by_cases link : c.parent? id = some other
      · exact linked.not_reflTransGen_parent link
      · rw [perform, Edit.after_map, linked.after_remove_of_ne link] at changed
        exact absurd (.refl c other) changed
  | bereft link =>
      rcases List.mem_cons.mp target with rfl | further
      · exact linked.not_reflTransGen_parent link
      · exact fun way => linked.acyclic id
          (.head link (.head' (Option.mem_toList.mp further) way))
  | created width height => cases target
  | createdOn apart x y width height =>
      obtain rfl := List.mem_singleton.mp target
      exact apart

end Linked

/-- **The picture of a window depends only on what lies on it.** Take any live window of a reachable
compositor and any request, which may succeed or fail. If the request writes neither the window nor
anything that lies on it, directly or further up, the window looks the same afterwards. This goes
for all requests about where the window lies. -/
theorem looksAlike_of_unwritten (reachable : c.Reachable) {id : WindowId}
    (alive : c.isAlive id = true) :
    (∀ action, (∀ other, c.Writes action other → ¬ Relation.ReflTransGen c.LiesOn other id) →
      c.LooksAlike ((perform action).after c) id) ∧
    ∀ action, c.Rearranges id action → c.LooksAlike ((perform action).after c) id := by
  have sound := reachable.sound
  obtain ⟨window, found⟩ := isAlive_iff.mp alive
  have unwritten (action : Action)
      (apart : ∀ other, c.Writes action other → ¬ Relation.ReflTransGen c.LiesOn other id) :
      c.LooksAlike ((perform action).after c) id := by
    have kept : ∀ above, Relation.ReflTransGen c.LiesOn above id →
        c.Untouched ((perform action).after c) above := by
      intro above way
      by_contra changed
      by_cases target : above ∈ c.targets action
      · exact apart above ⟨target, changed⟩ way
      · exact changed (sound.untouched_perform target)
    obtain ⟨parent, found'⟩ := kept id .refl window found
    exact .of_view_eq found (isAlive_of_find? found')
      (sound.linked.view_eq (sound.perform action).linked found kept)
  exact ⟨unwritten, fun action rearranges =>
    unwritten action fun _ => sound.linked.not_reflTransGen_of_rearranges rearranges⟩

/-- Three windows, each on the one before, of which the topmost one is white. -/
def mobile : Compositor :=
  run [.createWindow 3 1, .createChild ⟨0, 0⟩ 1 0 2 1, .createChild ⟨1, 0⟩ 0 0 1 1,
    .paint ⟨2, 0⟩ (Pixmap.perform (.fill .white))]

/-- Whether the window at the bottom is painted on or destroyed, the one in the middle still shows
the white one that lies on it. -/
theorem looksAlike_of_unwritten_mobile :
    mobile.Reachable ∧ mobile.isAlive ⟨1, 0⟩ = true ∧
    (∀ other, mobile.Writes (.paint ⟨0, 0⟩ (Pixmap.perform (.fill .pureRed))) other →
      ¬ Relation.ReflTransGen mobile.LiesOn other ⟨1, 0⟩) ∧
    mobile.LooksAlike
      ((perform (.paint ⟨0, 0⟩ (Pixmap.perform (.fill .pureRed)))).after mobile) ⟨1, 0⟩ ∧
    mobile.Rearranges ⟨1, 0⟩ (.destroy ⟨0, 0⟩) ∧
    ((perform (.destroy ⟨0, 0⟩)).after mobile).pixel ⟨1, 0⟩ 0 0 = .ok .white := by
  have reachable : mobile.Reachable := ⟨_, rfl⟩
  have alive : mobile.isAlive ⟨1, 0⟩ = true := by decide
  have apart : ∀ other, mobile.Writes (.paint ⟨0, 0⟩ (Pixmap.perform (.fill .pureRed))) other →
      ¬ Relation.ReflTransGen mobile.LiesOn other ⟨1, 0⟩ := by
    rintro other ⟨target, -⟩ way
    obtain rfl := List.mem_singleton.mp target
    rcases Relation.ReflTransGen.cases_head way with same | ⟨below, link, -⟩
    · exact absurd same (by decide)
    · have loose : mobile.parent? ⟨0, 0⟩ = none := by decide
      cases loose.symm.trans link
  have bereft : mobile.Rearranges ⟨1, 0⟩ (.destroy ⟨0, 0⟩) := .bereft (by decide)
  obtain ⟨unwritten, rearranged⟩ := looksAlike_of_unwritten reachable alive
  refine ⟨reachable, alive, apart, unwritten _ apart, bereft, ?_⟩
  exact ((rearranged _ bereft).pixel 0 0).trans (by decide)

end LedMatrix.Compositor
