/-
# What a destroyed window leaves behind

Destroying a window takes it off its parent, empties its slot and cuts the links of what lay on it,
and that is all (`Compositor.Destroyed`). What lay on it lives on with everything that it carries.

The slot is used again by the next window that is created. If something still pointed at the slot,
it would belong to that window from then on. Nothing does: a link between two windows comes only
from a request that lays the one on the other (`Sound.liesOn_of_perform`). A new window is therefore
in no registry before it is laid on something, and nothing is linked to it before something is laid
on it, whatever else has been asked for before and since.
-/

import LedMatrix.Proofs.Compositor.Linking
import LedMatrix.Proofs.Compositor.Registries

namespace LedMatrix

/-- What a window is like when it has been created: black, not see-through, not turned, with
nothing on it and on nothing. -/
structure Window.IsNew (window : Window) (width height : Nat) : Prop where
  width_eq : window.buffer.width = width
  height_eq : window.buffer.height = height
  black : ∀ color ∈ window.buffer.memory, color = Color.black
  background_eq : window.buffer.background = Color.black
  solid : window.buffer.transparent = false
  rotation_eq : window.buffer.orientation.rotation = .upright
  flip_eq : window.buffer.orientation.flip = Flip.none
  childless : window.entries = []
  parentless : window.parent = none

theorem Window.isNew_fresh (width height : Nat) : (fresh width height).IsNew width height where
  width_eq := rfl
  height_eq := rfl
  black _ member := (Array.mem_replicate.mp member).2
  background_eq := rfl
  solid := rfl
  rotation_eq := rfl
  flip_eq := rfl
  childless := rfl
  parentless := rfl

namespace Compositor

variable {c left : Compositor}

/-! ## Destroying -/

/-- What a compositor is like after a window has been destroyed. -/
structure Destroyed (c left : Compositor) (id : WindowId) : Prop where
  isAlive_iff : ∀ other, left.isAlive other = true ↔ c.isAlive other = true ∧ other ≠ id
  size_eq : left.size + 1 = c.size
  /-- The parent loses the one entry. -/
  below : ∀ parent base, c.find? parent = some base → Child.window id ∈ base.children →
    ∃ before entry after, base.entries = before ++ entry :: after ∧
      entry.node.child = .window id ∧
      left.find? parent = some { base with entries := before ++ after }
  /-- What lay on the window has no parent and no place, and is otherwise as it was. -/
  above : ∀ child window, c.Holds id child → c.find? child = some window →
    left.find? child = some { window with parent := none } ∧
      left.parent child = .ok none ∧ left.position child = .ok none ∧ c.CarriesSame left child
  /-- All other windows are as they were. -/
  apart : ∀ other, other ≠ id → ¬ c.Holds other id → ¬ c.Holds id other →
    left.find? other = c.find? other
  nextSource_eq : left.nextSource = c.nextSource

namespace Linked

variable (linked : c.Linked)
include linked

/-- A window that is taken off its parent keeps its registry, for it does not stand there
itself. -/
theorem find?_unlink_self {id : WindowId} {window : Window} (found : c.find? id = some window) :
    (c.unlink id).find? id = some { window with parent := none } := by
  have missing : Child.window id ∉ window.children := fun member =>
    linked.not_transGen_holds_self id (.single ⟨window, found, member⟩)
  rw [linked.find?_unlink_eq, found, Option.map_some, if_pos rfl,
    Window.withoutChild_of_not_mem missing]

theorem destroy_of_find? {id : WindowId} {window : Window} (found : c.find? id = some window) :
    destroy id c = .ok () ((c.unlink id).dissolve id window.entries) := by
  rw [destroy_eq, linked.find?_unlink_self found]

/-- What the other windows are like after a window has been taken off its parent and dissolved. -/
theorem find?_dissolve_unlink {id : WindowId} {window : Window} (found : c.find? id = some window)
    (other : WindowId) :
    ((c.unlink id).dissolve id window.entries).find? other =
      if other = id then none
      else (c.find? other).map fun base =>
        { base.withoutChild (.window id) with
          parent := if c.parent? other = some id then none else base.parent } := by
  have alive := isAlive_of_find? (linked.find?_unlink_self found)
  rw [find?_dissolve alive]
  by_cases here : other = id
  · rw [if_pos here, if_pos here]
  · rw [if_neg here, if_neg here, linked.find?_unlink_eq, Option.map_map]
    refine congrArg (Option.map · (c.find? other)) (funext fun base => ?_)
    have lay : Child.window other ∈ window.entries.map (·.node.child) ↔
        c.parent? other = some id := linked.mem_children_iff found other
    rw [Function.comp_apply, if_neg here]
    by_cases link : c.parent? other = some id
    · rw [if_pos (lay.mpr link), if_pos link]
    · rw [if_neg (mt lay.mp link), if_neg link]

end Linked

/-- One window less has one slot less in use. -/
theorem Stocked.size_of_cons (stocked : c.Stocked) {id : WindowId} (alive : c.isAlive id = true)
    (slots : left.slots.size = c.slots.size) (free : left.free = id.slot :: c.free) :
    left.size + 1 = c.size := by
  have counted := stocked.length_free_add_length_live
  have some : 0 < c.live.length := List.length_pos_of_mem (mem_live.mpr alive)
  rw [size, size, slots, free, List.length_cons]
  omega

/-- **Destroying a window changes what `Destroyed` says.** -/
theorem Sound.destroyed_dissolve (sound : c.Sound) {id : WindowId} {window : Window}
    (found : c.find? id = some window) :
    c.Destroyed ((c.unlink id).dissolve id window.entries) id := by
  have linked := sound.linked
  have acyclic := linked.not_transGen_holds_self
  have after := linked.find?_dissolve_unlink found
  have unlinked := c.sameSlots_unlink id
  have relinked := sameSlots_orphanAll ((c.unlink id).vacate id.slot) window.entries
  have apart (other : WindowId) (distinct : other ≠ id) (below : ¬ c.Holds other id)
      (above : ¬ c.Holds id other) :
      ((c.unlink id).dissolve id window.entries).find? other = c.find? other := by
    rw [after other, if_neg distinct]
    cases found' : c.find? other with
    | none => rfl
    | some base =>
        have missing : Child.window id ∉ base.children := fun member =>
          below ⟨base, found', member⟩
        rw [Option.map_some, if_neg (mt linked.holds_iff.mpr above),
          Window.withoutChild_of_not_mem missing]
  constructor
  · intro other
    rw [isAlive, after other, isAlive]
    by_cases here : other = id
    · simp [here]
    · simp [here]
  · refine sound.stocked.size_of_cons (isAlive_of_find? found) ?_ ?_
    · rw [dissolve, relinked.size_eq, vacate, Array.size_modify, unlinked.size_eq]
    · rw [dissolve, relinked.free_eq, vacate, unlinked.free_eq]
  · intro parent base foundBase member
    have held : c.Holds parent id := ⟨base, foundBase, member⟩
    have distinct : parent ≠ id := by
      rintro rfl
      exact acyclic parent (.single held)
    have once : base.children.count (.window id) = 1 := by
      rw [linked.count_children foundBase, if_pos (linked.holds_iff.mp held)]
    obtain ⟨before, entry, rest, split, named, kept⟩ := Window.exists_split_of_count once
    refine ⟨before, entry, rest, split, named, ?_⟩
    have steady : c.parent? parent ≠ some id := fun link =>
      acyclic id (.head (linked.holds_iff.mpr link) (.single held))
    rw [after parent, if_neg distinct, foundBase, Option.map_some, if_neg steady, ← kept]
    rfl
  · intro child moved held foundChild
    have distinct : child ≠ id := by
      rintro rfl
      exact acyclic child (.single held)
    have missing : Child.window id ∉ moved.children := fun member =>
      acyclic id (.head held (.single ⟨moved, foundChild, member⟩))
    have loose : ((c.unlink id).dissolve id window.entries).find? child =
        some { moved with parent := none } := by
      rw [after child, if_neg distinct, foundChild, Option.map_some,
        if_pos (linked.holds_iff.mp held), Window.withoutChild_of_not_mem missing]
    refine ⟨loose, parent_of_find? loose, position_of_loose loose rfl,
      .of_above foundChild ?_ fun other further => ?_⟩
    · intro moved' foundChild'
      obtain rfl := Option.some.inj (foundChild.symm.trans foundChild')
      exact ⟨none, loose⟩
    · -- What lies further up is neither the window, nor does it hold it, nor is it held by it.
      refine apart other ?_ (fun back => acyclic id ((further.head held).tail back)) fun again => ?_
      · rintro rfl
        exact acyclic other (further.head held)
      · obtain ⟨below, way, last⟩ := Relation.TransGen.tail'_iff.mp further
        obtain rfl : below = id := Option.some.inj
          ((linked.holds_iff.mp last).symm.trans (linked.holds_iff.mp again))
        exact acyclic below (.head' held way)
  · exact apart
  · rw [dissolve, relinked.nextSource_eq, vacate, unlinked.nextSource_eq]

/-! ## The slot afterwards -/

/-- A slot is empty exactly if the ledger says so. -/
theorem ledger_slot?_eq_vacant {slot : Nat} {generation : UInt32} :
    c.ledger.slot? slot = some (generation, false) ↔
      c.slots[slot]? = some { generation, window := none } := by
  simp only [ledger]
  cases c.slots[slot]? with
  | none => simp
  | some held =>
      obtain ⟨count, content⟩ := held
      cases content <;> simp

/-- The slot of a destroyed window is in the next generation and the first one to be used again. -/
theorem createWindow_dissolve {id : WindowId} {window : Window} (found : c.find? id = some window)
    (entries : List Entry) (width height : Nat) :
    ∃ next, createWindow width height (c.dissolve id entries) =
      .ok { slot := id.slot, generation := id.generation + 1 } next := by
  have free : (c.dissolve id entries).free = id.slot :: c.free :=
    (sameSlots_orphanAll (c.vacate id.slot) entries).free_eq
  have vacant : (c.vacate id.slot).slots[id.slot]? =
      some { generation := id.generation + 1, window := none } := by
    simp [vacate, Array.getElem?_modify, find?_eq_some.mp found]
  have vacant' : (c.dissolve id entries).slots[id.slot]? =
      some { generation := id.generation + 1, window := none } := by
    rwa [← ledger_slot?_eq_vacant, dissolve, ledger_orphanAll, ledger_slot?_eq_vacant]
  exact ⟨_, createWindow_of_cons free vacant' width height⟩

/-- **A destroyed window is gone, and nothing else.** Destroying a live window of a reachable
compositor succeeds and changes what `Destroyed` says. Whatever is asked for after that, a window
that is created then is new in every respect. If it is created at once, it comes into the same slot
in the next generation. In any run that follows no registry has an entry for it as long as it is
neither laid on anything nor destroyed, and no window is linked to it as long as nothing is laid or
created on it. -/
theorem destroy_exact (reachable : c.Reachable) {id : WindowId} (alive : c.isAlive id = true) :
    ∃ left, destroy id c = .ok () left ∧ c.Destroyed left id ∧
      ∀ (between : List Action) (width height : Nat), ∃ created next window,
        createWindow width height (Edit.afterAll (between.map perform) left) = .ok created next ∧
        (between = [] → created = { slot := id.slot, generation := id.generation + 1 }) ∧
        next.find? created = some window ∧ window.IsNew width height ∧
        ∀ later : List Action,
          ((∀ action ∈ later, action ≠ .destroy created ∧
              ∀ parent x y, action ≠ .add parent created x y) →
            ∀ below, ¬ (Edit.afterAll (later.map perform) next).Holds below created) ∧
          ((∀ action ∈ later, (∀ child x y, action ≠ .add created child x y) ∧
              ∀ x y width height, action ≠ .createChild created x y width height) →
            ∀ above,
              (Edit.afterAll (later.map perform) next).parent above ≠ .ok (some created)) := by
  have sound := reachable.sound
  obtain ⟨window, found⟩ := isAlive_iff.mp alive
  have unlinked := sound.linked.find?_unlink_self found
  have destroyed := sound.destroyed_dissolve found
  have ran := sound.linked.destroy_of_find? found
  have sound' : ((c.unlink id).dissolve id window.entries).Sound := by
    rw [← Edit.after_of_ok ran]
    exact sound.destroy id
  refine ⟨_, ran, destroyed, fun between width height => ?_⟩
  have before := sound'.afterAll between
  obtain ⟨created, next, new, stale, after, names⟩ := before.createWindow width height
  have foundNew : next.find? created = some (Window.fresh width height) := by
    rw [names, if_pos rfl]
  have fresh := Window.isNew_fresh width height
  refine ⟨created, next, _, new, ?_, foundNew, fresh, fun later => ⟨?_, ?_⟩⟩
  · rintro rfl
    obtain ⟨next', again⟩ := createWindow_dissolve unlinked window.entries width height
    exact (EStateM.Result.ok.inj (new.symm.trans again)).1
  · intro spared below held
    refine after.not_liesOn_afterAll (isAlive_of_find? foundNew) ?_ spared below
      ((after.afterAll later).linked.holds_iff.mp held)
    intro below lies
    rw [LiesOn, parent?_of_find? foundNew] at lies
    cases lies
  · intro spared above linked
    exact after.not_liesOn_of_afterAll
      (before.linked.not_liesOn_created stale rfl names) spared above (parent_eq_ok_iff.mp linked)

/-- Two windows on each other lie on a third one, beside a tile. -/
def nest : Compositor :=
  run [.createWindow 4 4, .createChild ⟨0, 0⟩ 1 1 2 2,
    .addSource ⟨0, 0⟩ (Pixmap.blank 1 1).toSource 2 0, .createChild ⟨1, 0⟩ 0 1 2 1,
    .createChild ⟨2, 0⟩ 1 0 1 1]

/-- When the lowest of the windows on the third one is destroyed, the others are on their own and
still on each other. A window that takes its place is not on the third one, also after something has
been created on it. -/
theorem destroy_exact_nest :
    nest.Reachable ∧ nest.isAlive ⟨1, 0⟩ = true ∧
    ∃ left, destroy ⟨1, 0⟩ nest = .ok () left ∧ nest.Destroyed left ⟨1, 0⟩ ∧
      left.children ⟨0, 0⟩ = .ok [(.source ⟨0⟩, 2, 0)] ∧ left.parent ⟨2, 0⟩ = .ok none ∧
      left.parent ⟨3, 0⟩ = .ok (some ⟨2, 0⟩) ∧
      ∃ next, createWindow 3 3 left = .ok ⟨1, 1⟩ next ∧
        ∀ below, ¬ (Edit.afterAll ([.createChild ⟨1, 1⟩ 0 0 1 1].map perform) next).Holds below
          ⟨1, 1⟩ := by
  have reachable : nest.Reachable := ⟨_, rfl⟩
  have alive : nest.isAlive ⟨1, 0⟩ = true := by decide
  obtain ⟨left, ran, destroyed, creations⟩ := destroy_exact reachable alive
  obtain ⟨created, next, window, new, reused, -, -, later⟩ := creations [] 3 3
  obtain rfl := reused rfl
  have unlaid : ∀ action ∈ [Action.createChild ⟨1, 1⟩ 0 0 1 1], action ≠ .destroy ⟨1, 1⟩ ∧
      ∀ parent x y, action ≠ .add parent ⟨1, 1⟩ x y := by
    intro action listed
    obtain rfl := List.mem_singleton.mp listed
    constructor
    · intro same
      cases same
    · intro parent x y same
      cases same
  refine ⟨reachable, alive, left, ran, destroyed, ?_, ?_, ?_, next, new, (later _).1 unlaid⟩
  all_goals
    rw [← Edit.after_of_ok ran]
    rfl

end Compositor

end LedMatrix
