/-
# Changes of an arrangement

The edits of a compositor are put together from a few changes of its store:
changing one window, taking a window off its parent, emptying a slot, cutting the
links of a registry. This module says what each of them does to what can be
looked up afterwards (`find?`), to the two records of the arrangement (`parent?`
and `mentions`), and to the slots that are empty.

Everything is stated for all handles at once, so that "nothing else changes" is
part of each statement.
-/

import LedMatrix.Proofs.Compositor.Links

namespace LedMatrix

namespace Window

/-! ## Registries -/

theorem children_withEntry (window : Window) (entry : Entry) :
    (window.withEntry entry).children = window.children ++ [entry.node.child] := by
  simp [children, withEntry]

theorem children_withoutChild (window : Window) (child : Child) :
    (window.withoutChild child).children = window.children.filter (· ≠ child) := by
  simp [children, withoutChild, List.filter_map, Function.comp_def]

/-- One more mention of the child to which the new entry belongs. -/
theorem count_withEntry (window : Window) (entry : Entry) (child : Child) :
    (window.withEntry entry).children.count child =
      window.children.count child + if entry.node.child = child then 1 else 0 := by
  rw [children_withEntry, List.count_append, List.count_singleton]
  simp only [beq_iff_eq]

/-- Nothing is left of a child that has been taken out. -/
theorem count_withoutChild (window : Window) (child other : Child) :
    (window.withoutChild child).children.count other =
      if other = child then 0 else window.children.count other := by
  rw [children_withoutChild]
  by_cases same : other = child
  · rw [if_pos same, List.count_eq_zero]
    simp [same]
  · rw [if_neg same, List.count_filter]
    simpa using same

/-- A child stands in the registry exactly if it is found there. -/
theorem indexOf?_eq_none {window : Window} {child : Child} :
    window.indexOf? child = none ↔ window.children.count child = 0 := by
  rw [indexOf?, List.findIdx?_eq_none_iff, List.count_eq_zero]
  simp [children]

theorem exists_indexOf?_of_mem {window : Window} {child : Child}
    (member : child ∈ window.children) : ∃ index, window.indexOf? child = some index := by
  cases place : window.indexOf? child with
  | none => exact absurd member (List.count_eq_zero.mp (indexOf?_eq_none.mp place))
  | some index => exact ⟨index, rfl⟩

/-- The entry at which a child is found is the first one of the child. -/
theorem eraseIdx_of_indexOf? {window : Window} {child : Child} {index : Nat}
    (found : window.indexOf? child = some index) :
    window.entries.eraseIdx index =
      window.entries.eraseP fun entry => entry.node.child = child := by
  rw [List.eraseP_eq_eraseIdx]
  rw [indexOf?] at found
  rw [found]

theorem children_eraseIdx {window : Window} {child : Child} {index : Nat}
    (found : window.indexOf? child = some index) :
    ({ window with entries := window.entries.eraseIdx index } : Window).children =
      window.children.erase child := by
  rw [children, eraseIdx_of_indexOf? found, List.erase_eq_eraseP', children, List.eraseP_map]
  rfl

/-- Taking out the entry at which a child is found takes out one mention of it. -/
theorem count_eraseIdx {window : Window} {child : Child} {index : Nat}
    (found : window.indexOf? child = some index) (other : Child) :
    ({ window with entries := window.entries.eraseIdx index } : Window).children.count other =
      window.children.count other - if child = other then 1 else 0 := by
  rw [children_eraseIdx found, List.count_erase]
  simp only [beq_iff_eq]

/-- Moving an entry does not change what stands in the registry. -/
theorem children_modify (window : Window) (index : Nat) (x y : Int) :
    ({ window with
        entries := window.entries.modify index fun entry =>
          { entry with x, y } } : Window).children = window.children := by
  simp only [children]
  apply List.ext_getElem?
  intro position
  simp only [List.getElem?_map, List.getElem?_modify]
  by_cases here : index = position
  · simp [here, Option.map_map, Function.comp_def]
  · simp [here]

end Window

namespace Compositor

variable {c : Compositor}

/-! ## Changing one window -/

theorem find?_update (c : Compositor) (id : WindowId) (change : Window → Window)
    (other : WindowId) :
    (c.update id change).find? other =
      if other = id then (c.find? other).map change else c.find? other := by
  by_cases same : other = id
  · rw [if_pos same, same, find?_update_same]
  · rw [if_neg same, find?_update_of_ne c change same]

theorem isAlive_update (c : Compositor) (id : WindowId) (change : Window → Window)
    (other : WindowId) : (c.update id change).isAlive other = c.isAlive other := by
  rw [isAlive, isAlive, find?_update]
  split
  · rw [Option.isSome_map]
  · rfl

theorem parent?_update (c : Compositor) (id : WindowId) (change : Window → Window)
    (other : WindowId) :
    (c.update id change).parent? other =
      if other = id then (c.find? id).bind fun window => (change window).parent
      else c.parent? other := by
  rw [parent?, find?_update]
  split
  · rename_i same
    subst same
    rw [Option.bind_map]
    rfl
  · rfl

theorem mentions_update (c : Compositor) (id : WindowId) (change : Window → Window)
    (below other : WindowId) :
    (c.update id change).mentions below other =
      if below = id then
        ((c.find? id).map fun window => (change window).children.count (.window other)).getD 0
      else c.mentions below other := by
  rw [mentions, find?_update]
  split
  · rename_i same
    subst same
    rw [Option.map_map]
    rfl
  · rfl

/-- A change that keeps the link of the changed window keeps all links. -/
theorem parent?_update_of_same (c : Compositor) (id : WindowId) (change : Window → Window)
    (same : ∀ window, (change window).parent = window.parent) (other : WindowId) :
    (c.update id change).parent? other = c.parent? other := by
  rw [parent?_update]
  split
  · rename_i here
    rw [here, parent?]
    exact congrArg (c.find? id).bind (funext same)
  · rfl

/-- A change that keeps the registry of the changed window keeps all registries. -/
theorem mentions_update_of_same (c : Compositor) (id : WindowId) (change : Window → Window)
    (same : ∀ window, (change window).entries = window.entries) (below other : WindowId) :
    (c.update id change).mentions below other = c.mentions below other := by
  rw [mentions_update]
  split
  · rename_i here
    rw [here, mentions]
    simp only [Window.children, same]
  · rfl

/-- Only what becomes of the window itself matters for a change of it. -/
theorem update_congr {id : WindowId} {window : Window} (found : c.find? id = some window)
    {change other : Window → Window} (same : change window = other window) :
    c.update id change = c.update id other := by
  have slots : (c.slots.modify id.slot fun slot =>
        { slot with window := slot.window.map change }) =
      c.slots.modify id.slot fun slot => { slot with window := slot.window.map other } := by
    apply Array.ext_getElem?
    intro place
    simp only [Array.getElem?_modify]
    split
    · rename_i here
      rw [← here, find?_eq_some.mp found]
      simp [same]
    · rfl
  rw [update, update, slots]

/-- Changing a window but neither its link nor what stands in its registry keeps
the arrangement sound. -/
theorem Linked.update (linked : c.Linked) {id : WindowId} {change : Window → Window}
    (links : ∀ window, c.find? id = some window → (change window).parent = window.parent)
    (registry : ∀ window, c.find? id = some window → ∀ other,
      (change window).children.count (Child.window other) =
        window.children.count (Child.window other)) :
    (c.update id change).Linked := by
  apply linked.of_same
  · intro other
    rw [parent?_update]
    split
    · rename_i same
      rw [same, parent?]
      cases found : c.find? id with
      | none => rfl
      | some window => exact links window found
    · rfl
  · intro below other
    rw [mentions_update]
    split
    · rename_i same
      rw [same, mentions]
      cases found : c.find? id with
      | none => rfl
      | some window => exact registry window found other
    · rfl

/-! ## Empty slots -/

/-- There is a slot here and it holds no window. -/
def Vacant (c : Compositor) (slot : Nat) : Prop :=
  ∃ generation, c.slots[slot]? = some { generation, window := none }

/-- The list of empty slots is what it says, without repetition. -/
structure Stocked (c : Compositor) : Prop where
  nodup_free : c.free.Nodup
  mem_free : ∀ slot, slot ∈ c.free ↔ c.Vacant slot

/-- A handle to an empty slot is stale. -/
theorem Vacant.find?_eq_none {id : WindowId} (vacant : c.Vacant id.slot) : c.find? id = none := by
  obtain ⟨generation, found⟩ := vacant
  rw [find?, found]
  exact ite_self none

theorem vacant_update (c : Compositor) (id : WindowId) (change : Window → Window) (slot : Nat) :
    (c.update id change).Vacant slot ↔ c.Vacant slot := by
  unfold update
  split
  · simp only [Vacant, Array.getElem?_modify]
    by_cases here : id.slot = slot
    · subst here
      cases c.slots[id.slot]? with
      | none => simp
      | some held =>
          obtain ⟨generation, window⟩ := held
          cases window <;> simp
    · simp [here]
  · rfl

theorem free_update (c : Compositor) (id : WindowId) (change : Window → Window) :
    (c.update id change).free = c.free := by
  unfold update
  split <;> rfl

theorem nextSource_update (c : Compositor) (id : WindowId) (change : Window → Window) :
    (c.update id change).nextSource = c.nextSource := by
  unfold update
  split <;> rfl

theorem generations_update (c : Compositor) (id : WindowId) (change : Window → Window) :
    (c.update id change).slots.map (·.generation) = c.slots.map (·.generation) := by
  unfold update
  split
  · apply Array.ext
    · simp
    · intro slot inside inside'
      simp only [Array.getElem_map, Array.getElem_modify]
      split <;> rfl
  · rfl

theorem Stocked.update (stocked : c.Stocked) (id : WindowId) (change : Window → Window) :
    (c.update id change).Stocked where
  nodup_free := by
    rw [free_update]
    exact stocked.nodup_free
  mem_free slot := by
    rw [free_update, vacant_update]
    exact stocked.mem_free slot

/-! ## Taking a window off its parent -/

theorem unlink_of_loose {id : WindowId} (loose : c.parent? id = none) : c.unlink id = c := by
  rw [unlink, show (c.find? id).bind (·.parent) = none from loose]

theorem unlink_of_link {id below : WindowId} (link : c.parent? id = some below) :
    c.unlink id =
      (c.update id fun window => { window with parent := none }).update below
        (·.withoutChild (.window id)) := by
  rw [unlink, show (c.find? id).bind (·.parent) = some below from link]

theorem isAlive_unlink (c : Compositor) (id other : WindowId) :
    (c.unlink id).isAlive other = c.isAlive other := by
  cases link : c.parent? id with
  | none => rw [unlink_of_loose link]
  | some below => rw [unlink_of_link link, isAlive_update, isAlive_update]

/-- The window taken off keeps all but its link, the one below all but the entry, and
all other windows keep everything. -/
theorem find?_unlink (c : Compositor) (id other : WindowId) :
    (c.unlink id).find? other = (c.find? other).map fun window =>
      { window with
        parent := if other = id then none else window.parent
        entries :=
          if c.parent? id = some other then (window.withoutChild (.window id)).entries
          else window.entries } := by
  cases link : c.parent? id with
  | none =>
      rw [unlink_of_loose link]
      cases found : c.find? other with
      | none => rfl
      | some window =>
          by_cases same : other = id
          · have unlinked : window.parent = none := by
              rw [parent?, ← same, found] at link
              exact link
            simp only [same, if_true, reduceCtorEq, if_false, Option.map_some]
            rw [← unlinked]
          · simp [same]
  | some below =>
      have turned : some below = some other ↔ other = below := by rw [Option.some.injEq, eq_comm]
      rw [unlink_of_link link, find?_update, find?_update]
      simp only [turned]
      cases c.find? other with
      | none => simp
      | some window =>
          simp only [Option.map_some]
          split_ifs <;> rfl

theorem parent?_unlink (c : Compositor) (id other : WindowId) :
    (c.unlink id).parent? other = if other = id then none else c.parent? other := by
  unfold parent?
  rw [find?_unlink]
  cases c.find? other with
  | none => simp
  | some window => by_cases same : other = id <;> simp [same]

theorem mentions_unlink (c : Compositor) (id below other : WindowId) :
    (c.unlink id).mentions below other =
      if c.parent? id = some below ∧ other = id then 0 else c.mentions below other := by
  rw [mentions, mentions, find?_unlink, Option.map_map]
  cases c.find? below with
  | none => simp
  | some window =>
      by_cases link : c.parent? id = some below
      · have names : ({ window with
            parent := if below = id then none else window.parent
            entries := (window.withoutChild (.window id)).entries } : Window).children =
              (window.withoutChild (.window id)).children := rfl
        simp only [Option.map_some, Option.getD_some, Function.comp_apply, link, if_true, true_and,
          names, Window.count_withoutChild, Child.window.injEq]
      · simp only [Option.map_some, Option.getD_some, Function.comp_apply, link, if_false,
          false_and]
        rfl

theorem Linked.unlink (linked : c.Linked) (id : WindowId) : (c.unlink id).Linked := by
  refine linked.of_cut (· = id) (fun other => c.parent?_unlink id other) fun below other => ?_
  rw [mentions_unlink]
  by_cases same : other = id
  · subst same
    rw [if_pos rfl]
    by_cases link : c.parent? other = some below
    · rw [if_pos ⟨link, rfl⟩]
    · rw [if_neg fun both => link both.1, linked.mentions_eq, if_neg link]
  · rw [if_neg fun both => same both.2, if_neg same]

theorem Stocked.unlink (stocked : c.Stocked) (id : WindowId) : (c.unlink id).Stocked := by
  cases link : c.parent? id with
  | none => rwa [unlink_of_loose link]
  | some below =>
      rw [unlink_of_link link]
      exact (stocked.update id _).update below _

/-! ## Emptying a slot -/

/-- An emptied slot leaves the handle of its window stale and all others as they
are. -/
theorem find?_vacate {id : WindowId} (alive : c.isAlive id = true) (other : WindowId) :
    (c.vacate id.slot).find? other = if other = id then none else c.find? other := by
  obtain ⟨window, found⟩ := isAlive_iff.mp alive
  have held := find?_eq_some.mp found
  simp only [find?, vacate, Array.getElem?_modify]
  by_cases same : id.slot = other.slot
  · rw [if_pos same, ← same, held]
    by_cases here : other = id
    · simp [here]
    · have foreign : id.generation ≠ other.generation := by
        intro agrees
        apply here
        cases id
        cases other
        simp_all
      simp [here, foreign]
  · have distinct : other ≠ id := by
      rintro rfl
      exact same rfl
    rw [if_neg same, if_neg distinct]

theorem vacant_vacate {id : WindowId} (alive : c.isAlive id = true) (slot : Nat) :
    (c.vacate id.slot).Vacant slot ↔ slot = id.slot ∨ c.Vacant slot := by
  obtain ⟨window, found⟩ := isAlive_iff.mp alive
  simp only [Vacant, vacate, Array.getElem?_modify]
  by_cases here : id.slot = slot
  · subst here
    simp [find?_eq_some.mp found]
  · simp [here, Ne.symm here]

theorem Stocked.vacate (stocked : c.Stocked) {id : WindowId} (alive : c.isAlive id = true) :
    (c.vacate id.slot).Stocked where
  nodup_free := by
    refine List.nodup_cons.mpr ⟨fun listed => ?_, stocked.nodup_free⟩
    have stale := ((stocked.mem_free id.slot).mp listed).find?_eq_none
    rw [isAlive, stale] at alive
    cases alive
  mem_free slot := by
    rw [vacant_vacate alive, ← stocked.mem_free]
    exact List.mem_cons

/-! ## Cutting the links of a registry -/

/-- Cut the links of all windows in a registry. -/
def orphanAll (c : Compositor) (entries : List Entry) : Compositor :=
  entries.foldl (fun c entry => c.orphan entry.node) c

theorem find?_orphan (c : Compositor) (node : Node) (other : WindowId) :
    (c.orphan node).find? other = (c.find? other).map fun window =>
      if node.child = .window other then { window with parent := none } else window := by
  cases node with
  | window id =>
      rw [orphan, find?_update, Node.child]
      by_cases same : other = id
      · subst same
        simp
      · have distinct : Child.window id ≠ .window other := fun agrees =>
          same (Child.window.inj agrees).symm
        simp [same, distinct]
  | source id source => simp [orphan, Node.child]

/-- Exactly the windows in the registry lose their link. -/
theorem find?_orphanAll (c : Compositor) (entries : List Entry) (other : WindowId) :
    (c.orphanAll entries).find? other = (c.find? other).map fun window =>
      if Child.window other ∈ entries.map (·.node.child) then { window with parent := none }
      else window := by
  induction entries generalizing c with
  | nil => simp [orphanAll]
  | cons entry rest ih =>
      have step := ih (c.orphan entry.node)
      rw [find?_orphan, Option.map_map] at step
      refine step.trans (congrArg (Option.map · (c.find? other)) (funext fun window => ?_))
      by_cases first : entry.node.child = .window other
      · simp [first]
      · have turned : Child.window other ≠ entry.node.child := fun same => first same.symm
        simp [first, turned]

theorem Stocked.orphanAll (stocked : c.Stocked) (entries : List Entry) :
    (c.orphanAll entries).Stocked := by
  induction entries generalizing c with
  | nil => exact stocked
  | cons entry rest ih =>
      have step : (c.orphan entry.node).Stocked := by
        cases entry.node with
        | window id => exact stocked.update id _
        | source id source => exact stocked
      exact ih step

end Compositor

end LedMatrix
