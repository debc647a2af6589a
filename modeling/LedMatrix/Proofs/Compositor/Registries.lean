/-
# What stands in registries

The links between windows lead down, from a window to the one on which it lies. Registries lead
up: `Compositor.Holds` says that one window stands in the registry of another one. In a sound
arrangement the two are the same story, so what is reached through registries is what reaches a
window through links (`Linked.reflTransGen_holds_iff`), and each window is held at most once.

`Compositor.CarriesSame` says that nothing has changed for what lies on a window, directly or
further up. The window itself may have come to lie on something else.
-/

import LedMatrix.Proofs.Compositor.Forest
import LedMatrix.Proofs.Compositor.Independence

namespace LedMatrix

namespace Window

variable {window : Window} {child : Child}

theorem withoutChild_of_not_mem (missing : child ∉ window.children) :
    window.withoutChild child = window := by
  have all : ∀ entry ∈ window.entries, decide (entry.node.child ≠ child) = true := by
    intro entry listed
    rw [decide_eq_true_eq]
    rintro rfl
    exact missing (List.mem_map_of_mem listed)
  rw [withoutChild, List.filter_eq_self.mpr all]

/-- The registry around the only entry of a child. -/
theorem exists_split_of_count (once : window.children.count child = 1) :
    ∃ before entry after, window.entries = before ++ entry :: after ∧ entry.node.child = child ∧
      (window.withoutChild child).entries = before ++ after := by
  have member : child ∈ window.children := List.count_pos_iff.mp (by omega)
  obtain ⟨entry, listed, rfl⟩ := List.mem_map.mp member
  obtain ⟨before, after, split⟩ := List.append_of_mem listed
  refine ⟨before, entry, after, split, rfl, ?_⟩
  rw [children, split, List.map_append, List.map_cons, List.count_append,
    List.count_cons_self] at once
  have others (entries : List Entry)
      (missing : (entries.map (·.node.child)).count entry.node.child = 0) :
      entries.filter (fun other => other.node.child ≠ entry.node.child) = entries := by
    refine List.filter_eq_self.mpr fun other listed => ?_
    rw [decide_eq_true_eq]
    intro same
    exact List.count_eq_zero.mp missing (List.mem_map.mpr ⟨other, listed, same⟩)
  rw [withoutChild, split, List.filter_append, List.filter_cons_of_neg (by simp),
    others before (by omega), others after (by omega)]

end Window

namespace Compositor

variable {c left : Compositor}

/-- The first window has an entry for the second one in its registry. -/
def Holds (c : Compositor) (below above : WindowId) : Prop :=
  ∃ window, c.find? below = some window ∧ Child.window above ∈ window.children

namespace Linked

variable (linked : c.Linked) {id below above : WindowId}
include linked

/-- A window is held by exactly the window on which it lies. -/
theorem holds_iff : c.Holds below above ↔ c.parent? above = some below := by
  constructor
  · rintro ⟨window, found, member⟩
    exact (linked.mem_children_iff found above).mp member
  · intro link
    obtain ⟨window, found⟩ := isAlive_iff.mp (linked.isAlive_parent link)
    exact ⟨window, found, (linked.mem_children_iff found above).mpr link⟩

/-- **Registries and links lead the same ways.** -/
theorem reflTransGen_holds_iff :
    Relation.ReflTransGen c.Holds below above ↔ Relation.ReflTransGen c.LiesOn above below := by
  have same : c.Holds = Function.swap c.LiesOn := by
    funext below above
    exact propext linked.holds_iff
  rw [same, Relation.reflTransGen_swap]

theorem transGen_holds_iff :
    Relation.TransGen c.Holds below above ↔ Relation.TransGen c.LiesOn above below := by
  have same : c.Holds = Function.swap c.LiesOn := by
    funext below above
    exact propext linked.holds_iff
  rw [same, Relation.transGen_swap]

/-- No window holds itself, directly or further up. -/
theorem not_transGen_holds_self (id : WindowId) : ¬ Relation.TransGen c.Holds id id := by
  rw [linked.transGen_holds_iff]
  exact linked.acyclic id

/-- A window stands in the registry of the one on which it lies once, and in no other. -/
theorem count_children {window : Window} (found : c.find? below = some window) (above : WindowId) :
    window.children.count (.window above) = if c.parent? above = some below then 1 else 0 := by
  rw [← mentions_of_find? found, linked.mentions_eq]

/-- A window that is taken off its parent leaves the registries of all windows. -/
theorem find?_unlink_eq (id other : WindowId) :
    (c.unlink id).find? other = (c.find? other).map fun window =>
      { window.withoutChild (.window id) with
        parent := if other = id then none else window.parent } := by
  rw [find?_unlink]
  cases found : c.find? other with
  | none => rfl
  | some window =>
      by_cases link : c.parent? id = some other
      · simp only [link, if_true, Option.map_some]
        rfl
      · have missing : Child.window id ∉ window.children := by
          rwa [linked.mem_children_iff found id]
        simp only [link, if_false, Option.map_some, Window.withoutChild_of_not_mem missing]

end Linked

/-! ## Slots -/

/-- The slots keep their generations, the same ones are empty, and no source has been registered. -/
structure SameSlots (c left : Compositor) : Prop where
  free_eq : left.free = c.free
  generations_eq : left.slots.map (·.generation) = c.slots.map (·.generation)
  nextSource_eq : left.nextSource = c.nextSource

theorem SameSlots.refl (c : Compositor) : c.SameSlots c := ⟨rfl, rfl, rfl⟩

theorem SameSlots.trans {middle : Compositor} (first : c.SameSlots middle)
    (second : middle.SameSlots left) : c.SameSlots left :=
  ⟨second.free_eq.trans first.free_eq, second.generations_eq.trans first.generations_eq,
    second.nextSource_eq.trans first.nextSource_eq⟩

theorem SameSlots.size_eq (same : c.SameSlots left) : left.slots.size = c.slots.size := by
  have sizes := congrArg Array.size same.generations_eq
  rwa [Array.size_map, Array.size_map] at sizes

theorem sameSlots_update (c : Compositor) (id : WindowId) (change : Window → Window) :
    c.SameSlots (c.update id change) :=
  ⟨c.free_update id change, c.generations_update id change, c.nextSource_update id change⟩

theorem sameSlots_unlink (c : Compositor) (id : WindowId) : c.SameSlots (c.unlink id) := by
  cases link : c.parent? id with
  | none =>
      rw [unlink_of_loose link]
      exact .refl c
  | some below =>
      rw [unlink_of_link link]
      exact (c.sameSlots_update id _).trans (sameSlots_update _ below _)

theorem sameSlots_attach (c : Compositor) (parent child : WindowId) (x y : Int) :
    c.SameSlots (c.attach parent child x y) := by
  refine .trans ?_ (sameSlots_update _ child _)
  exact (c.sameSlots_unlink child).trans (sameSlots_update _ parent _)

theorem sameSlots_orphanAll (c : Compositor) (entries : List Entry) :
    c.SameSlots (c.orphanAll entries) := by
  induction entries generalizing c with
  | nil => exact .refl c
  | cons entry rest ih =>
      have step : c.SameSlots (c.orphan entry.node) := by
        cases entry.node with
        | window id => exact c.sameSlots_update id _
        | source id source => exact .refl c
      exact step.trans (ih (c.orphan entry.node))

/-! ## What a window carries -/

/-- A window carries what it carried: it keeps its own picture and its registry, and all that lies
on it, directly or further up, is as it was. -/
structure CarriesSame (c left : Compositor) (root : WindowId) : Prop where
  own : c.Untouched left root
  above : ∀ id, Relation.TransGen c.Holds root id → left.find? id = c.find? id
  holds : ∀ id, Relation.ReflTransGen left.Holds root id ↔ Relation.ReflTransGen c.Holds root id

/-- What is reached through registries that stay the same is the same. -/
theorem CarriesSame.of_above {root : WindowId} {window : Window}
    (found : c.find? root = some window) (own : c.Untouched left root)
    (above : ∀ id, Relation.TransGen c.Holds root id → left.find? id = c.find? id) :
    c.CarriesSame left root := by
  -- At each window on the way the two registries agree.
  have step : ∀ {below id : WindowId}, Relation.ReflTransGen c.Holds root below →
      (left.Holds below id ↔ c.Holds below id) := by
    intro below id way
    rcases Relation.reflTransGen_iff_eq_or_transGen.mp way with rfl | further
    · obtain ⟨parent, found'⟩ := own window found
      constructor
      · rintro ⟨window', held, member⟩
        obtain rfl := Option.some.inj (found'.symm.trans held)
        exact ⟨window, found, member⟩
      · rintro ⟨window', held, member⟩
        obtain rfl := Option.some.inj (found.symm.trans held)
        exact ⟨_, found', member⟩
    · rw [Holds, Holds, above below further]
  refine ⟨own, above, fun id => ⟨fun way => ?_, fun way => ?_⟩⟩
  · induction way with
    | refl => exact .refl
    | tail _ held ih => exact ih.tail ((step ih).mp held)
  · induction way with
    | refl => exact .refl
    | tail before held ih => exact ih.tail ((step before).mpr held)

end Compositor

end LedMatrix
