/-
# Windows form a forest

`IsForest` spells out what callers can rely on about the arrangement of windows:
handles that are stored name live windows, a window's parent and the registries
tell the same story, nothing lies on itself, the empty slots are known, and the
number of live windows is the number of slots less the empty ones. Two of the
requests depend on it visibly: a window has a position exactly if it has a parent,
and a live window can always be moved unless it has no parent.

Every run of requests ends in a forest (`run_isForest`).
-/

import LedMatrix.Proofs.Compositor.Reachable

namespace LedMatrix.Compositor

variable {c : Compositor}

/-! ## Counting -/

theorem handleAt?_eq_none_iff {slot : Nat} :
    (slot < c.slots.size ∧ c.handleAt? slot = none) ↔ c.Vacant slot := by
  unfold handleAt? Vacant
  cases held : c.slots[slot]? with
  | none =>
      have beyond : ¬ slot < c.slots.size := Nat.not_lt.mpr (Array.getElem?_eq_none_iff.mp held)
      simp [beyond]
  | some content =>
      obtain ⟨inside, -⟩ := Array.getElem?_eq_some_iff.mp held
      obtain ⟨generation, window⟩ := content
      cases window with
      | none => simp [inside]
      | some window => simp

/-- Each slot is empty or holds a live window. -/
theorem Stocked.length_free_add_length_live (stocked : c.Stocked) :
    c.free.length + c.live.length = c.slots.size := by
  have empty : c.free.Perm
      ((List.range c.slots.size).filter fun slot => ¬ (c.handleAt? slot).isSome) := by
    refine (List.perm_ext_iff_of_nodup stocked.nodup_free (List.nodup_range.filter _)).mpr ?_
    intro slot
    rw [stocked.mem_free, ← handleAt?_eq_none_iff]
    simp
  rw [empty.length_eq, live, List.length_filterMap_eq_countP, ← List.countP_eq_length_filter,
    Nat.add_comm, ← List.length_eq_countP_add_countP, List.length_range]

/-- The list of live windows is as long as their number. -/
theorem ncard_isAlive (c : Compositor) : {id | c.isAlive id = true}.ncard = c.live.length := by
  have listed : {id | c.isAlive id = true} = (c.live.toFinset : Set WindowId) := by
    ext id
    rw [Set.mem_ofPred_eq, Finset.mem_coe, List.mem_toFinset, mem_live]
  rw [listed, Set.ncard_coe_finset, List.toFinset_card_of_nodup c.nodup_live]

/-! ## Looking up parents and places -/

theorem parent_of_find? {id : WindowId} {window : Window} (found : c.find? id = some window) :
    c.parent id = .ok window.parent := by
  rw [parent, window_of_find? found]
  rfl

/-- What callers are told of a parent is the link of a live window. -/
theorem parent_eq_ok_iff {id below : WindowId} :
    c.parent id = .ok (some below) ↔ c.parent? id = some below := by
  cases found : c.find? id with
  | none => simp [parent, parent?, Compositor.window, found, Except.map]
  | some window =>
      rw [parent_of_find? found, parent?_of_find? found]
      exact ⟨Except.ok.inj, congrArg Except.ok⟩

/-- A window without a parent has no place. -/
theorem position_of_loose {id : WindowId} {window : Window} (found : c.find? id = some window)
    (loose : window.parent = none) : c.position id = .ok none := by
  rw [position, window_of_find? found]
  simp [bind, Except.bind, loose, pure, Except.pure]

/-- The place of a window is looked up in the registry of its parent. -/
theorem position_of_link {id below : WindowId} {window base : Window}
    (found : c.find? id = some window) (link : window.parent = some below)
    (foundBase : c.find? below = some base) :
    c.position id =
      .ok ((base.entries.find? fun entry => entry.node.child = .window id).map
        fun entry => (entry.x, entry.y)) := by
  rw [position, window_of_find? found]
  simp [bind, Except.bind, link, pure, Except.pure, window_of_find? foundBase]

/-- The window is in one of the slots. -/
def Stored (c : Compositor) (window : Window) : Prop :=
  ∃ (slot : Nat) (generation : UInt32),
    c.slots[slot]? = some { generation, window := some window }

/-- A window in a slot is named by the slot and its generation. -/
theorem Stored.exists_find? {window : Window} (stored : c.Stored window) :
    ∃ id, c.find? id = some window := by
  obtain ⟨slot, generation, held⟩ := stored
  refine ⟨{ slot, generation }, ?_⟩
  rw [find?, held]
  exact if_pos rfl

namespace Linked

variable (linked : c.Linked)
include linked

/-- What stands in a registry is alive, since it has a link. -/
theorem isAlive_of_mem {below id : WindowId} {window : Window} (found : c.find? below = some window)
    (member : Child.window id ∈ window.children) : c.isAlive id = true :=
  isAlive_of_parent? ((linked.mem_children_iff found id).mp member)

/-- A window with a parent is found in the parent's registry. -/
theorem exists_indexOf? {id below : WindowId} (link : c.parent? id = some below) :
    ∃ window index, c.find? below = some window ∧ window.indexOf? (.window id) = some index := by
  obtain ⟨window, found⟩ := isAlive_iff.mp (linked.isAlive_parent link)
  obtain ⟨index, place⟩ :=
    Window.exists_indexOf?_of_mem ((linked.mem_children_iff found id).mpr link)
  exact ⟨window, index, found, place⟩

/-- A window has a place exactly if it has a parent. -/
theorem position_isSome_iff {id : WindowId} {window : Window} (found : c.find? id = some window) :
    ∃ place, c.position id = .ok place ∧ (place.isSome = true ↔ window.parent.isSome = true) := by
  cases link : window.parent with
  | none => exact ⟨none, position_of_loose found link, by simp⟩
  | some below =>
      have link' : c.parent? id = some below := (parent?_of_find? found).trans link
      obtain ⟨base, index, foundBase, place⟩ := linked.exists_indexOf? link'
      have member := (linked.mem_children_iff foundBase id).mpr link'
      refine ⟨_, position_of_link found link foundBase, ?_⟩
      rw [Option.isSome_map, List.find?_isSome]
      obtain ⟨entry, listed, named⟩ := List.mem_map.mp member
      exact iff_of_true ⟨entry, listed, decide_eq_true named⟩ rfl

/-- A live window can be moved unless it has no parent. -/
theorem moveWindow_eq_ok {id below : WindowId} (link : c.parent? id = some below) (x y : Int) :
    ∃ left, moveWindow id x y c = .ok () left := by
  obtain ⟨window, found⟩ := isAlive_iff.mp (isAlive_of_parent? link)
  obtain ⟨base, index, foundBase, place⟩ := linked.exists_indexOf? link
  rw [parent?_of_find? found] at link
  rw [moveWindow_eq, found]
  simp only [link]
  rw [setOffset_eq, foundBase]
  simp only [place]
  exact ⟨_, rfl⟩

end Linked

/-! ## The forest -/

/-- What callers can rely on about how windows lie on each other. -/
structure IsForest (c : Compositor) : Prop where
  /-- Every window in a stored registry is alive. -/
  isAlive_of_registered : ∀ window, c.Stored window → ∀ id, Child.window id ∈ window.children →
    c.isAlive id = true
  /-- Every stored link names a live window. -/
  isAlive_of_linked : ∀ window, c.Stored window → ∀ below, window.parent = some below →
    c.isAlive below = true
  /-- Links and registries tell the same story. -/
  parent_iff : ∀ id below window, c.isAlive id = true → c.find? below = some window →
    (c.parent id = .ok (some below) ↔ Child.window id ∈ window.children)
  /-- A window with a parent stands in its registry once. -/
  count_eq_one : ∀ id below window, c.parent id = .ok (some below) → c.find? below = some window →
    window.children.count (.window id) = 1
  /-- It stands in no other registry. -/
  not_mem_of_ne : ∀ id below other window, c.parent id = .ok (some below) → other ≠ below →
    c.find? other = some window → Child.window id ∉ window.children
  /-- Following links never comes back. -/
  acyclic : ∀ id, ¬ Relation.TransGen (fun above below => c.parent above = .ok (some below)) id id
  nodup_free : c.free.Nodup
  /-- Exactly the empty slots are listed as empty. -/
  mem_free : ∀ slot,
    slot ∈ c.free ↔ ∃ generation, c.slots[slot]? = some { generation, window := none }
  finite_alive : {id | c.isAlive id = true}.Finite
  /-- Each slot is empty or holds one live window. -/
  length_free_add : c.free.length + {id | c.isAlive id = true}.ncard = c.slots.size
  /-- The number of live windows is what it claims to be. -/
  size_eq : c.size = {id | c.isAlive id = true}.ncard
  /-- A live window has a position exactly if it has a parent. -/
  position_isSome_iff : ∀ id, c.isAlive id = true → ∃ parent place, c.parent id = .ok parent ∧
    c.position id = .ok place ∧ (place.isSome = true ↔ parent.isSome = true)
  /-- Moving a live window fails only if it has no parent, and says so. -/
  moveWindow : ∀ id x y, c.isAlive id = true →
    (c.parent id = .ok none ∧ moveWindow id x y c = .error (.orphan id) c) ∨
      ∃ below left, c.parent id = .ok (some below) ∧ moveWindow id x y c = .ok () left

theorem Sound.isForest (sound : c.Sound) : c.IsForest where
  isAlive_of_registered window stored id member := by
    obtain ⟨below, found⟩ := stored.exists_find?
    exact sound.linked.isAlive_of_mem found member
  isAlive_of_linked window stored below link := by
    obtain ⟨id, found⟩ := stored.exists_find?
    exact sound.linked.isAlive_parent ((parent?_of_find? found).trans link)
  parent_iff id below window _ found := by
    rw [parent_eq_ok_iff, sound.linked.mem_children_iff found]
  count_eq_one id below window link found := by
    rw [← mentions_of_find? found, sound.linked.mentions_eq, if_pos (parent_eq_ok_iff.mp link)]
  not_mem_of_ne id below other window link distinct found member := by
    have link' := (sound.linked.mem_children_iff found id).mp member
    rw [parent_eq_ok_iff.mp link] at link'
    exact distinct (Option.some.inj link').symm
  acyclic id cycle := by
    apply sound.linked.acyclic id
    refine Relation.TransGen.mono ?_ _ _ cycle
    intro above below link
    exact parent_eq_ok_iff.mp link
  nodup_free := sound.stocked.nodup_free
  mem_free := sound.stocked.mem_free
  finite_alive := (List.finite_toSet c.live).subset fun id alive => mem_live.mpr alive
  length_free_add := by
    rw [ncard_isAlive, sound.stocked.length_free_add_length_live]
  size_eq := by
    rw [ncard_isAlive, size, ← sound.stocked.length_free_add_length_live, Nat.add_sub_cancel_left]
  position_isSome_iff id alive := by
    obtain ⟨window, found⟩ := isAlive_iff.mp alive
    obtain ⟨place, placed, both⟩ := sound.linked.position_isSome_iff found
    exact ⟨window.parent, place, parent_of_find? found, placed, both⟩
  moveWindow id x y alive := by
    obtain ⟨window, found⟩ := isAlive_iff.mp alive
    cases link : window.parent with
    | none =>
        refine .inl ⟨(parent_of_find? found).trans (congrArg _ link), ?_⟩
        rw [moveWindow_eq, found]
        simp only [link]
    | some below =>
        obtain ⟨left, moved⟩ :=
          sound.linked.moveWindow_eq_ok ((parent?_of_find? found).trans link) x y
        exact .inr ⟨below, left, (parent_of_find? found).trans (congrArg _ link), moved⟩

/-- **Windows form a forest after every run of requests**, whichever of them succeed and
whichever handles they use. As each step of a run ends a shorter run, this holds
after every request. -/
theorem run_isForest (actions : List Action) : (run actions).IsForest :=
  (sound_run actions).isForest

/-- A window outlives the one on which it lay, and then lies on nothing. -/
example :
    let c := run [.createWindow 1 1, .createChild ⟨0, 0⟩ 0 0 1 1, .destroy ⟨0, 0⟩]
    c.size = 1 ∧ c.free = [0] ∧ c.parent ⟨1, 0⟩ = .ok none := ⟨rfl, rfl, rfl⟩

end LedMatrix.Compositor
