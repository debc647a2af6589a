/-
# What the edits of a compositor do

One equation for each edit of a compositor: which checks it makes, in which order,
with which report it refuses, and which compositor it leaves behind. Later proofs
start from these equations and never open an edit again.

Nothing is assumed of the compositor here, with one exception: creating a window
takes the first empty slot, so it needs the list of empty slots to be right
(`Stocked`). What the edits keep of a sound arrangement comes later.
-/

import LedMatrix.Proofs.Compositor.Changes

namespace LedMatrix

/-- What a window is when it has just been created. -/
def Window.fresh (width height : Nat) : Window := { buffer := Pixmap.blank width height }

namespace Compositor

variable {c : Compositor}

/-! ## Looking up and changing one window -/

theorem fetch_of_some {id : WindowId} {window : Window} (found : c.find? id = some window) :
    fetch id c = .ok window c := by
  change (liftExcept (c.window id) : Edit Compositor Window) c = .ok window c
  rw [window_of_find? found]
  rfl

theorem fetch_of_none {id : WindowId} (stale : c.find? id = none) :
    fetch id c = .error (.staleWindow id) c := by
  change (liftExcept (c.window id) : Edit Compositor Window) c = .error (.staleWindow id) c
  rw [Compositor.window, stale]
  rfl

/-- Going on with a live window. -/
theorem fetch_bind_of_some {α : Type} {id : WindowId} {window : Window}
    {next : Window → Edit Compositor α} (found : c.find? id = some window) :
    (fetch id >>= next) c = next window c :=
  Edit.bind_of_ok (fetch_of_some found)

/-- A stale handle ends the edit. -/
theorem fetch_bind_of_none {α : Type} {id : WindowId} {next : Window → Edit Compositor α}
    (stale : c.find? id = none) : (fetch id >>= next) c = .error (.staleWindow id) c :=
  Edit.bind_of_error (fetch_of_none stale)

theorem amend_of_alive {id : WindowId} (alive : c.isAlive id = true) (change : Window → Window) :
    amend id change c = .ok () (c.update id change) := by
  obtain ⟨window, found⟩ := isAlive_iff.mp alive
  exact fetch_bind_of_some found

/-! ## Creating -/

/-- Put a window into an empty slot, after which the given slots are still empty. -/
def occupy (c : Compositor) (slot : Nat) (free : List Nat) (window : Window) : Compositor :=
  { c with
    slots := c.slots.modify slot fun s => { s with window := some window }
    free }

/-- Put a window into a slot of its own behind all others. -/
def extend (c : Compositor) (window : Window) : Compositor :=
  { c with slots := c.slots.push { window := some window } }

/-- A window put into an empty slot is named by the slot and its generation. -/
theorem find?_occupy {slot : Nat} {generation : UInt32}
    (empty : c.slots[slot]? = some { generation, window := none }) (free : List Nat)
    (window : Window) (other : WindowId) :
    (c.occupy slot free window).find? other =
      if other = { slot, generation } then some window else c.find? other := by
  simp only [find?, occupy, Array.getElem?_modify]
  by_cases sameSlot : slot = other.slot
  · rw [if_pos sameSlot, ← sameSlot, empty]
    obtain ⟨place, count⟩ := other
    obtain rfl : slot = place := sameSlot
    by_cases mine : generation = count
    · simp [mine]
    · have foreign : ({ slot, generation := count } : WindowId) ≠ { slot, generation } := by
        intro same
        exact mine (WindowId.mk.inj same).2.symm
      simp [mine, foreign]
  · have distinct : other ≠ { slot, generation } := by
      rintro rfl
      exact sameSlot rfl
    rw [if_neg sameSlot, if_neg distinct]

/-- A window put into a new slot is named by that slot in its first generation. -/
theorem find?_extend (c : Compositor) (window : Window) (other : WindowId) :
    (c.extend window).find? other =
      if other = { slot := c.slots.size, generation := 0 } then some window
      else c.find? other := by
  obtain ⟨place, count⟩ := other
  simp only [find?, extend, Array.getElem?_push]
  by_cases last : place = c.slots.size
  · subst last
    by_cases first : count = 0
    · simp [first]
    · have foreign : ¬ 0 = count := fun same => first same.symm
      simp [first, foreign]
  · simp [last]

/-- Using the first empty slot leaves the others empty. -/
theorem Stocked.occupy (stocked : c.Stocked) {slot : Nat} {free : List Nat}
    (next : c.free = slot :: free) (window : Window) : (c.occupy slot free window).Stocked := by
  have nodup := stocked.nodup_free
  rw [next] at nodup
  obtain ⟨fresh, nodup⟩ := List.nodup_cons.mp nodup
  refine ⟨nodup, fun other => ?_⟩
  have listed : other ∈ slot :: free ↔ c.Vacant other := by
    rw [← next]
    exact stocked.mem_free other
  simp only [Vacant, Compositor.occupy, Array.getElem?_modify]
  by_cases here : slot = other
  · subst here
    rw [if_pos rfl]
    constructor
    · intro again
      exact absurd again fresh
    · rintro ⟨generation, held⟩
      cases content : c.slots[slot]? <;> simp [content] at held
  · rw [if_neg here, ← Vacant, ← listed, List.mem_cons]
    exact ⟨.inr, fun either => either.resolve_left (Ne.symm here)⟩

/-- A new slot with a window in it is not empty. -/
theorem Stocked.extend (stocked : c.Stocked) (window : Window) : (c.extend window).Stocked where
  nodup_free := stocked.nodup_free
  mem_free slot := by
    change slot ∈ c.free ↔ _
    rw [stocked.mem_free]
    simp only [Vacant, Compositor.extend, Array.getElem?_push]
    by_cases last : slot = c.slots.size
    · simp [last]
    · simp [last]

theorem createWindow_of_cons {slot : Nat} {free : List Nat} (next : c.free = slot :: free)
    {generation : UInt32} (empty : c.slots[slot]? = some { generation, window := none })
    (width height : Nat) :
    createWindow width height c =
      .ok { slot, generation } (c.occupy slot free (.fresh width height)) := by
  obtain ⟨slots, _, nextSource⟩ := c
  subst next
  have named : ((slots[slot]?).map (·.generation)).getD 0 = generation := by
    rw [show slots[slot]? = _ from empty]
    rfl
  rw [← named]
  rfl

theorem createWindow_of_nil (next : c.free = []) (width height : Nat) :
    createWindow width height c =
      .ok { slot := c.slots.size, generation := 0 } (c.extend (.fresh width height)) := by
  obtain ⟨slots, _, nextSource⟩ := c
  subst next
  rfl

/-- **Creating a window never fails.** Its handle was stale before, and all other
handles name what they named. -/
theorem createWindow_ok (stocked : c.Stocked) (width height : Nat) :
    ∃ id left, createWindow width height c = .ok id left ∧ c.find? id = none ∧ left.Stocked ∧
      ∀ other, left.find? other =
        if other = id then some (Window.fresh width height) else c.find? other := by
  cases next : c.free with
  | cons slot free =>
      have vacant : c.Vacant slot := by
        rw [← stocked.mem_free, next]
        exact List.mem_cons_self
      obtain ⟨generation, empty⟩ := id vacant
      have stale : c.find? { slot, generation } = none := Vacant.find?_eq_none vacant
      exact ⟨_, _, createWindow_of_cons next empty width height, stale,
        stocked.occupy next _, find?_occupy empty free _⟩
  | nil =>
      have stale : c.find? { slot := c.slots.size, generation := 0 } = none := by
        simp [find?]
      exact ⟨_, _, createWindow_of_nil next width height, stale, stocked.extend _,
        find?_extend c _⟩

/-! ## Laying windows and sources on a window -/

/-- Take a window off what it lies on and lay it on another one. -/
def attach (c : Compositor) (parent child : WindowId) (x y : Int) : Compositor :=
  ((c.unlink child).update parent (·.withEntry { node := .window child, x, y })).update child
    fun window => { window with parent := some parent }

/-- Both handles are looked up before the arrangement is, and nothing is changed
until all three checks have passed. -/
theorem add_eq (parent child : WindowId) (x y : Int) (c : Compositor) :
    add parent child x y c =
      match c.find? parent, c.find? child with
      | none, _ => .error (.staleWindow parent) c
      | some _, none => .error (.staleWindow child) c
      | some _, some _ =>
          if c.isAncestorOrSelf child parent then .error (.cycle parent child) c
          else .ok () (c.attach parent child x y) := by
  unfold add
  cases below : c.find? parent with
  | none => exact fetch_bind_of_none below
  | some window =>
      refine (fetch_bind_of_some below).trans ?_
      cases above : c.find? child with
      | none => exact fetch_bind_of_none above
      | some moved =>
          refine (fetch_bind_of_some above).trans ?_
          have parentAlive : (c.unlink child).isAlive parent = true := by
            rw [isAlive_unlink]
            exact isAlive_of_find? below
          have childAlive : ((c.unlink child).update parent
              (·.withEntry { node := .window child, x, y })).isAlive child = true := by
            rw [isAlive_update, isAlive_unlink]
            exact isAlive_of_find? above
          refine (Edit.get_bind _ c).trans ?_
          by_cases cyclic : c.isAncestorOrSelf child parent = true
          · rw [if_pos cyclic, if_pos cyclic]
            rfl
          · rw [if_neg cyclic, if_neg cyclic]
            refine (Edit.modify_bind _ _ c).trans ?_
            refine (Edit.bind_of_ok (amend_of_alive parentAlive _)).trans ?_
            exact amend_of_alive childAlive _

/-- Lay a source on a window and count the registration. -/
def register (c : Compositor) (parent : WindowId) (source : Source) (x y : Int) : Compositor :=
  let laid := c.update parent (·.withEntry { node := .source ⟨c.nextSource⟩ source, x, y })
  { laid with nextSource := laid.nextSource + 1 }

theorem addSource_eq (parent : WindowId) (source : Source) (x y : Int) (c : Compositor) :
    addSource parent source x y c =
      match c.find? parent with
      | none => .error (.staleWindow parent) c
      | some _ => .ok ⟨c.nextSource⟩ (c.register parent source x y) := by
  refine (Edit.get_bind _ c).trans ?_
  cases below : c.find? parent with
  | none => exact Edit.bind_of_error (fetch_bind_of_none below)
  | some window => exact Edit.bind_of_ok (amend_of_alive (isAlive_of_find? below) _)

/-! ## Entries that are there already -/

/-- A child is looked for in a registry only after the registry's window. -/
theorem place_eq (parent : WindowId) (child : Child) (c : Compositor) :
    place parent child c =
      match c.find? parent with
      | none => .error (.staleWindow parent) c
      | some window =>
          match window.indexOf? child with
          | none => .error (.notAChild parent child) c
          | some index => .ok index c := by
  unfold place
  cases below : c.find? parent with
  | none => exact fetch_bind_of_none below
  | some window =>
      refine (fetch_bind_of_some below).trans ?_
      dsimp only
      cases window.indexOf? child <;> rfl

/-- The steps that taking out an entry and moving it have in common. -/
theorem place_bind_amend (parent : WindowId) (child : Child) (change : Nat → Window → Window)
    (c : Compositor) :
    (place parent child >>= fun index => amend parent (change index)) c =
      match c.find? parent with
      | none => .error (.staleWindow parent) c
      | some window =>
          match window.indexOf? child with
          | none => .error (.notAChild parent child) c
          | some index => .ok () (c.update parent (change index)) := by
  have placed := place_eq parent child c
  cases below : c.find? parent with
  | none =>
      rw [below] at placed
      exact Edit.bind_of_error placed
  | some window =>
      simp only [below] at placed ⊢
      cases found : window.indexOf? child with
      | none =>
          rw [found] at placed
          exact Edit.bind_of_error placed
      | some index =>
          rw [found] at placed
          refine (Edit.bind_of_ok placed).trans ?_
          exact amend_of_alive (isAlive_of_find? below) _

theorem removeEntry_eq (parent : WindowId) (child : Child) (c : Compositor) :
    removeEntry parent child c =
      match c.find? parent with
      | none => .error (.staleWindow parent) c
      | some window =>
          match window.indexOf? child with
          | none => .error (.notAChild parent child) c
          | some index =>
              .ok () (c.update parent fun window =>
                { window with entries := window.entries.eraseIdx index }) :=
  place_bind_amend parent child
    (fun index window => { window with entries := window.entries.eraseIdx index }) c

theorem setOffset_eq (parent : WindowId) (child : Child) (x y : Int) (c : Compositor) :
    setOffset parent child x y c =
      match c.find? parent with
      | none => .error (.staleWindow parent) c
      | some window =>
          match window.indexOf? child with
          | none => .error (.notAChild parent child) c
          | some index =>
              .ok () (c.update parent fun window =>
                { window with
                  entries := window.entries.modify index fun entry => { entry with x, y } }) :=
  place_bind_amend parent child
    (fun index window =>
      { window with entries := window.entries.modify index fun entry => { entry with x, y } }) c

/-- Take the entry of a window out of the registry below it and cut its link. -/
def detach (c : Compositor) (parent child : WindowId) (index : Nat) : Compositor :=
  (c.update parent fun window =>
    { window with entries := window.entries.eraseIdx index }).update child
      fun window => { window with parent := none }

theorem remove_eq (parent child : WindowId) (c : Compositor) :
    remove parent child c =
      match c.find? child, c.find? parent with
      | none, _ => .error (.staleWindow child) c
      | some _, none => .error (.staleWindow parent) c
      | some _, some window =>
          match window.indexOf? (.window child) with
          | none => .error (.notAChild parent (.window child)) c
          | some index => .ok () (c.detach parent child index) := by
  have erased := removeEntry_eq parent (.window child) c
  unfold remove
  cases above : c.find? child with
  | none => exact fetch_bind_of_none above
  | some moved =>
      refine (fetch_bind_of_some above).trans ?_
      cases below : c.find? parent with
      | none =>
          rw [below] at erased
          exact Edit.bind_of_error erased
      | some window =>
          simp only [below] at erased ⊢
          cases found : window.indexOf? (.window child) with
          | none =>
              rw [found] at erased
              exact Edit.bind_of_error erased
          | some index =>
              rw [found] at erased
              refine (Edit.bind_of_ok erased).trans (amend_of_alive ?_ _)
              rw [isAlive_update]
              exact isAlive_of_find? above

theorem moveWindow_eq (id : WindowId) (x y : Int) (c : Compositor) :
    moveWindow id x y c =
      match c.find? id with
      | none => .error (.staleWindow id) c
      | some window =>
          match window.parent with
          | none => .error (.orphan id) c
          | some parent => setOffset parent (.window id) x y c := by
  unfold moveWindow
  cases found : c.find? id with
  | none => exact fetch_bind_of_none found
  | some window =>
      refine (fetch_bind_of_some found).trans ?_
      dsimp only
      cases window.parent <;> rfl

/-! ## Destroying -/

/-- Empty the slot of a window and cut the links of what lay on it. -/
def dissolve (c : Compositor) (id : WindowId) (entries : List Entry) : Compositor :=
  (c.vacate id.slot).orphanAll entries

/-- A window is taken off its parent before it is destroyed, so the registry that
decides which links are cut is looked up after that. -/
theorem destroy_eq (id : WindowId) (c : Compositor) :
    destroy id c =
      match (c.unlink id).find? id with
      | none => .error (.staleWindow id) c
      | some window => .ok () ((c.unlink id).dissolve id window.entries) := by
  unfold destroy
  cases found : c.find? id with
  | none =>
      have stale : (c.unlink id).find? id = none := by
        rw [find?_unlink, found]
        rfl
      rw [stale]
      exact fetch_bind_of_none found
  | some window =>
      refine (fetch_bind_of_some found).trans ((Edit.modify_bind _ _ c).trans ?_)
      have alive : (c.unlink id).isAlive id = true := by
        rw [isAlive_unlink]
        exact isAlive_of_find? found
      obtain ⟨loose, held⟩ := isAlive_iff.mp alive
      rw [held]
      exact fetch_bind_of_some held

/-! ## Painting -/

/-- Painting on a live window always puts the picture back that the painting has
left, also when it has failed. -/
theorem paint_eq {α : Type} (id : WindowId) (edit : Edit Pixmap α) (c : Compositor) :
    paint id edit c =
      match c.find? id with
      | none => .error (.staleWindow id) c
      | some window =>
          match edit window.buffer with
          | .ok answer buffer => .ok answer (c.update id fun window => { window with buffer })
          | .error cause buffer =>
              .error cause (c.update id fun window => { window with buffer }) := by
  unfold paint
  cases found : c.find? id with
  | none => exact fetch_bind_of_none found
  | some window =>
      refine (fetch_bind_of_some found).trans ?_
      dsimp only
      cases edit window.buffer <;> rfl

theorem paint_of_ok {α : Type} {id : WindowId} {window : Window} {edit : Edit Pixmap α}
    {answer : α} {buffer : Pixmap} (found : c.find? id = some window)
    (ran : edit window.buffer = .ok answer buffer) :
    paint id edit c = .ok answer (c.update id fun window => { window with buffer }) := by
  rw [paint_eq, found]
  dsimp only
  rw [ran]

/-- The picture is taken before anything is painted. -/
theorem drawWindow_eq (target source : WindowId) (x y : Int) (flip : Flip) (c : Compositor) :
    drawWindow target source x y flip c =
      match c.snapshot source with
      | .error cause => .error cause c
      | .ok picture => paint target (Pixmap.draw picture.toSource x y flip) c := by
  refine (Edit.get_bind _ c).trans ?_
  cases c.snapshot source <;> rfl

end Compositor

end LedMatrix
