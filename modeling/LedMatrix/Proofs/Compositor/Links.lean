/-
# How windows lie on each other

The arrangement of windows is written down twice: the window below has an entry
in its registry, and the window above has a link to it. `Compositor.parent?` and
`Compositor.mentions` are these two records, and `Compositor.Linked` says that
they agree and that no window lies on itself, directly or through others.

Two kinds of change keep the arrangement sound, and every edit of a compositor
is made of them: cutting windows off what they lie on (`Linked.of_cut`), and
laying a loose window on one that does not lie on it (`Linked.of_join`).

The number of windows below a window (`Compositor.depth`) bounds every walk along
the links, because it falls with each step and is smaller than the number of
slots.
-/

import Mathlib.Data.Set.Card
import Mathlib.Logic.Relation
import LedMatrix.Compositor.Picture
import LedMatrix.Proofs.Edit

namespace LedMatrix

/-- What stands in a window's registry, without offsets. -/
def Window.children (window : Window) : List Child := window.entries.map (·.node.child)

namespace Compositor

/-- The link of a window to the one it lies on. -/
def parent? (c : Compositor) (id : WindowId) : Option WindowId := (c.find? id).bind (·.parent)

/-- How often a window stands in the registry of another one. -/
def mentions (c : Compositor) (below id : WindowId) : Nat :=
  ((c.find? below).map fun window => window.children.count (.window id)).getD 0

/-- The first window lies directly on the second one. -/
def LiesOn (c : Compositor) (id below : WindowId) : Prop := c.parent? id = some below

/-- Registries and links agree, and following links never comes back. -/
structure Linked (c : Compositor) : Prop where
  mentions_eq : ∀ below id, c.mentions below id = if c.parent? id = some below then 1 else 0
  acyclic : ∀ id, ¬ Relation.TransGen c.LiesOn id id

variable {c : Compositor}

/-- A handle names the window in its slot, if the slot is in its generation. -/
theorem find?_eq_some {id : WindowId} {window : Window} :
    c.find? id = some window ↔
      c.slots[id.slot]? = some { generation := id.generation, window := some window } := by
  rw [find?]
  cases c.slots[id.slot]? with
  | none => simp
  | some held =>
      obtain ⟨generation, content⟩ := held
      by_cases same : generation = id.generation
      · simp [same]
      · simp [same]

theorem isAlive_iff {id : WindowId} : c.isAlive id = true ↔ ∃ window, c.find? id = some window := by
  rw [isAlive, Option.isSome_iff_exists]

theorem isAlive_of_find? {id : WindowId} {window : Window} (found : c.find? id = some window) :
    c.isAlive id = true := isAlive_iff.mpr ⟨window, found⟩

theorem window_of_find? {id : WindowId} {window : Window} (found : c.find? id = some window) :
    c.window id = .ok window := by
  rw [Compositor.window, found]

theorem isAlive_of_parent? {id below : WindowId} (link : c.parent? id = some below) :
    c.isAlive id = true := by
  obtain ⟨window, found, -⟩ := Option.bind_eq_some_iff.mp link
  exact isAlive_of_find? found

theorem parent?_of_find? {id : WindowId} {window : Window} (found : c.find? id = some window) :
    c.parent? id = window.parent := by
  rw [parent?, found]
  rfl

theorem mentions_of_find? {below : WindowId} {window : Window} (found : c.find? below = some window)
    (id : WindowId) : c.mentions below id = window.children.count (.window id) := by
  rw [mentions, found]
  rfl

/-- Only a live window has a registry. -/
theorem isAlive_of_mentions {below id : WindowId} (mentioned : c.mentions below id ≠ 0) :
    c.isAlive below = true := by
  rw [isAlive_iff]
  cases found : c.find? below with
  | none => simp [mentions, found] at mentioned
  | some window => exact ⟨window, rfl⟩

namespace Linked

/-- What a window lies on is alive. -/
theorem isAlive_parent (linked : c.Linked) {id below : WindowId}
    (link : c.parent? id = some below) : c.isAlive below = true := by
  have mentioned : c.mentions below id ≠ 0 := by
    rw [linked.mentions_eq, if_pos link]
    exact Nat.one_ne_zero
  exact isAlive_of_mentions mentioned

/-- A window stands in no registry but that of the window it is linked to. -/
theorem parent?_of_mentions (linked : c.Linked) {below id : WindowId}
    (mentioned : c.mentions below id ≠ 0) : c.parent? id = some below := by
  rw [linked.mentions_eq] at mentioned
  by_contra unlinked
  exact mentioned (if_neg unlinked)

/-- A window stands in the registry of exactly the window to which it is linked. -/
theorem mem_children_iff (linked : c.Linked) {below : WindowId} {window : Window}
    (found : c.find? below = some window) (id : WindowId) :
    Child.window id ∈ window.children ↔ c.parent? id = some below := by
  rw [← List.count_pos_iff, ← mentions_of_find? found, linked.mentions_eq]
  split
  · rename_i link
    exact iff_of_true Nat.one_pos link
  · rename_i unlinked
    exact iff_of_false (Nat.lt_irrefl 0) unlinked

/-- Cutting windows off what they lie on keeps the arrangement sound. -/
theorem of_cut (linked : c.Linked) {c' : Compositor} (cut : WindowId → Prop)
    [DecidablePred cut] (parents : ∀ id, c'.parent? id = if cut id then none else c.parent? id)
    (registries : ∀ below id, c'.mentions below id = if cut id then 0 else c.mentions below id) :
    c'.Linked where
  mentions_eq below id := by
    rw [registries, parents]
    by_cases loose : cut id
    · simp [loose]
    · simp only [loose, if_false]
      exact linked.mentions_eq below id
  acyclic id cycle := by
    apply linked.acyclic id
    refine Relation.TransGen.mono ?_ _ _ cycle
    intro a b step
    rw [LiesOn, parents] at step
    by_cases loose : cut a
    · simp [loose] at step
    · rwa [if_neg loose] at step

/-- A change that keeps both records keeps the arrangement sound. -/
theorem of_same (linked : c.Linked) {c' : Compositor} (parents : ∀ id, c'.parent? id = c.parent? id)
    (registries : ∀ below id, c'.mentions below id = c.mentions below id) : c'.Linked := by
  apply linked.of_cut fun _ => False
  · intro id
    rw [if_neg not_false, parents]
  · intro below id
    rw [if_neg not_false, registries]

end Linked

/-- A way along links of which one is new either avoids the new link or goes up
to it and on from it. -/
theorem transGen_join {R R' : WindowId → WindowId → Prop} {child below : WindowId}
    (steps : ∀ a b, R' a b → R a b ∨ (a = child ∧ b = below)) {a b : WindowId}
    (way : Relation.TransGen R' a b) :
    Relation.TransGen R a b ∨
      (Relation.ReflTransGen R a child ∧ Relation.ReflTransGen R below b) := by
  induction way with
  | single step =>
      rcases steps _ _ step with old | ⟨rfl, rfl⟩
      · exact .inl (.single old)
      · exact .inr ⟨.refl, .refl⟩
  | tail _ step ih =>
      rcases steps _ _ step with old | ⟨rfl, rfl⟩
      · rcases ih with avoids | ⟨up, on⟩
        · exact .inl (avoids.tail old)
        · exact .inr ⟨up, on.tail old⟩
      · rcases ih with avoids | ⟨up, -⟩
        · exact .inr ⟨avoids.to_reflTransGen, .refl⟩
        · exact .inr ⟨up, .refl⟩

/-- Laying a loose window on one that does not lie on it keeps the arrangement
sound. -/
theorem Linked.of_join (linked : c.Linked) {c' : Compositor} {child below : WindowId}
    (loose : c.parent? child = none) (apart : ¬ Relation.ReflTransGen c.LiesOn below child)
    (parents : ∀ id, c'.parent? id = if id = child then some below else c.parent? id)
    (registries : ∀ p id, c'.mentions p id =
      if p = below ∧ id = child then c.mentions p id + 1 else c.mentions p id) : c'.Linked where
  mentions_eq p id := by
    rw [registries, parents, linked.mentions_eq]
    by_cases here : id = child
    · subst here
      simp only [loose, reduceCtorEq, if_false, if_true, and_true, Option.some.injEq, eq_comm]
    · simp only [here, and_false, if_false]
  acyclic id cycle := by
    have steps : ∀ a b, c'.LiesOn a b → c.LiesOn a b ∨ (a = child ∧ b = below) := by
      intro a b step
      rw [LiesOn, parents] at step
      by_cases here : a = child
      · rw [if_pos here] at step
        exact .inr ⟨here, (Option.some.inj step).symm⟩
      · rw [if_neg here] at step
        exact .inl step
    rcases transGen_join steps cycle with old | ⟨up, on⟩
    · exact linked.acyclic id old
    · exact apart (on.trans up)

/-! ## Live windows and depth -/

/-- The handle of the window in a slot, if there is one. -/
def handleAt? (c : Compositor) (slot : Nat) : Option WindowId :=
  match c.slots[slot]? with
  | some { generation, window := some _ } => some { slot, generation }
  | _ => none

/-- The handles of all live windows, by slot. -/
def live (c : Compositor) : List WindowId := (List.range c.slots.size).filterMap c.handleAt?

theorem handleAt?_eq_some {slot : Nat} {id : WindowId} :
    c.handleAt? slot = some id ↔ id.slot = slot ∧ c.isAlive id = true := by
  unfold handleAt?
  rw [isAlive_iff]
  constructor
  · intro held
    split at held
    · rename_i generation window found
      cases held
      exact ⟨rfl, window, find?_eq_some.mpr found⟩
    · cases held
  · rintro ⟨rfl, window, found⟩
    rw [find?_eq_some.mp found]

/-- Exactly the live windows are listed. -/
theorem mem_live {id : WindowId} : id ∈ c.live ↔ c.isAlive id = true := by
  simp only [live, List.mem_filterMap, List.mem_range, handleAt?_eq_some]
  constructor
  · rintro ⟨slot, -, -, alive⟩
    exact alive
  · intro alive
    refine ⟨id.slot, ?_, rfl, alive⟩
    by_contra beyond
    have missing : c.slots[id.slot]? = none := Array.getElem?_eq_none (Nat.not_lt.mp beyond)
    simp [isAlive, find?, missing] at alive

/-- No window is listed twice, as no two live windows share a slot. -/
theorem nodup_live (c : Compositor) : c.live.Nodup := by
  apply List.Nodup.filterMap _ List.nodup_range
  intro first second id held held'
  rw [← (handleAt?_eq_some.mp held).1, ← (handleAt?_eq_some.mp held').1]

theorem length_live_le (c : Compositor) : c.live.length ≤ c.slots.size := by
  refine (List.length_filterMap_le _ _).trans ?_
  rw [List.length_range]

/-- The number of windows below a window, all the way down. -/
noncomputable def depth (c : Compositor) (id : WindowId) : Nat :=
  {below | Relation.TransGen c.LiesOn id below}.ncard

namespace Linked

variable (linked : c.Linked)
include linked

theorem isAlive_of_transGen {id below : WindowId} (way : Relation.TransGen c.LiesOn id below) :
    c.isAlive below = true := by
  cases way with
  | single step => exact linked.isAlive_parent step
  | tail _ step => exact linked.isAlive_parent step

theorem finite_below (id : WindowId) : {below | Relation.TransGen c.LiesOn id below}.Finite := by
  apply (List.finite_toSet c.live).subset
  intro below way
  exact mem_live.mpr (linked.isAlive_of_transGen way)

/-- A window has fewer windows below it than what lies on it. -/
theorem depth_lt_depth {id below : WindowId} (link : c.parent? id = some below) :
    c.depth below < c.depth id := by
  apply Set.ncard_lt_ncard _ (linked.finite_below id)
  constructor
  · intro other way
    exact .head link way
  · intro all
    exact linked.acyclic below (all (.single link))

/-- There are fewer windows below a window than slots, since the window itself
needs one. -/
theorem depth_lt_size {id : WindowId} (alive : c.isAlive id = true) :
    c.depth id < c.slots.size := by
  classical
  have proper :
      {below | Relation.TransGen c.LiesOn id below} ⊂ (c.live.toFinset : Set WindowId) := by
    constructor
    · intro below way
      exact List.mem_toFinset.mpr (mem_live.mpr (linked.isAlive_of_transGen way))
    · intro all
      exact linked.acyclic id (all (List.mem_toFinset.mpr (mem_live.mpr alive)))
  calc
    c.depth id < (c.live.toFinset : Set WindowId).ncard :=
      Set.ncard_lt_ncard proper (Finset.finite_toSet _)
    _ = c.live.toFinset.card := Set.ncard_coe_finset _
    _ ≤ c.live.length := List.toFinset_card_le _
    _ ≤ c.slots.size := c.length_live_le

end Linked

/-! ## Walks -/

/-- A walk meets only windows that the first one lies on, or itself. -/
theorem reflTransGen_of_walkMeets {candidate id : WindowId} {steps : Nat}
    (meets : c.walkMeets candidate steps id = true) :
    Relation.ReflTransGen c.LiesOn id candidate := by
  induction steps generalizing id with
  | zero =>
      obtain rfl : id = candidate := by simpa [walkMeets] using meets
      exact .refl
  | succ steps ih =>
      rw [walkMeets] at meets
      split at meets
      · rename_i here
        subst here
        exact .refl
      · split at meets
        · rename_i link
          exact .head link (ih meets)
        · cases meets

/-- A walk with a step for each window below finds the candidate if it is there. -/
theorem Linked.walkMeets_of_reflTransGen (linked : c.Linked) {candidate id : WindowId}
    (way : Relation.ReflTransGen c.LiesOn id candidate) {steps : Nat}
    (enough : c.depth id ≤ steps) : c.walkMeets candidate steps id = true := by
  induction way using Relation.ReflTransGen.head_induction_on generalizing steps with
  | refl => cases steps <;> simp [walkMeets]
  | @head id below link _ ih =>
      have falls := linked.depth_lt_depth link
      cases steps with
      | zero => omega
      | succ steps =>
          have next : c.walkMeets candidate steps below = true := ih (by omega)
          rw [walkMeets]
          split
          · rfl
          · rw [show (c.find? id).bind (·.parent) = some below from link]
            exact next

/-- **The walk decides what lies on what.** As many steps as there are slots are
enough. -/
theorem Linked.isAncestorOrSelf_iff (linked : c.Linked) {candidate id : WindowId}
    (alive : c.isAlive id = true) :
    c.isAncestorOrSelf candidate id = true ↔ Relation.ReflTransGen c.LiesOn id candidate := by
  constructor
  · exact reflTransGen_of_walkMeets
  · intro way
    exact linked.walkMeets_of_reflTransGen way (Nat.le_of_lt (linked.depth_lt_size alive))

end Compositor

end LedMatrix
