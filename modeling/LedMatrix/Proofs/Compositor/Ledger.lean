/-
# What handles mean

Four things change which handles mean anything: a window is created, a window is
destroyed, a source is registered, and a registration is withdrawn. An `Event` is one of
these, with the handles that go over the counter.

A `Ledger` is what events tell of: the generations of the slots, which slots hold a
window, the sources registered on each window and the number that the next one gets. It
is a small machine of its own, with a rule for when an event can happen (`Allows`) and one
for what it changes (`enter`), and it knows neither links nor offsets nor pictures. This
module reads the ledger off a compositor and says what each change of a compositor does to
it: most of them nothing, the others one event that is allowed.
-/

import Mathlib.Logic.Function.Basic
import LedMatrix.Proofs.Compositor.Edits

namespace LedMatrix

/-! ## Counters -/

/-- A counter comes back to where it was after every `2 ^ 32` counts. -/
theorem add_ofNat_eq_self (counter : UInt32) (count : Nat) :
    counter + UInt32.ofNat count = counter ↔ 0x100000000 ∣ count := by
  rw [UInt32.add_eq_left, ← UInt32.toNat_inj, UInt32.toNat_ofNat', Nat.dvd_iff_mod_eq_zero]
  rfl

/-! ## Registrations -/

/-- The registration that a node stands for, if it stands for one. -/
def Node.registration? : Node → Option (SourceId × Source)
  | .window _ => none
  | .source id picture => some (id, picture)

theorem Node.registration?_window (id : WindowId) : (Node.window id).registration? = none := rfl

theorem Node.registration?_source (id : SourceId) (picture : Source) :
    (Node.source id picture).registration? = some (id, picture) := rfl

theorem Node.child_eq_window {node : Node} {id : WindowId} :
    node.child = .window id ↔ node = .window id := by
  cases node <;> simp [Node.child]

theorem Node.child_eq_source {node : Node} {id : SourceId} :
    node.child = .source id ↔ ∃ source, node.registration? = some (id, source) := by
  cases node <;> simp [Node.child, Node.registration?]

namespace Window

/-- The registrations of sources in a window's registry, in its order. -/
def registrations (window : Window) : List (SourceId × Source) :=
  window.entries.filterMap (·.node.registration?)

theorem registrations_withEntry (window : Window) (entry : Entry) :
    (window.withEntry entry).registrations =
      window.registrations ++ entry.node.registration?.toList := by
  rw [registrations, withEntry, List.filterMap_append]
  cases found : entry.node.registration? <;> simp [registrations, found]

/-- Taking out a window takes out no registration. -/
theorem registrations_withoutChild (window : Window) (id : WindowId) :
    (window.withoutChild (.window id)).registrations = window.registrations := by
  rw [registrations, withoutChild, List.filterMap_filter]
  refine List.filterMap_congr fun entry _ => ?_
  by_cases taken : entry.node.child = .window id
  · rw [Node.child_eq_window.mp taken, Node.registration?_window]
    exact ite_self none
  · simp [taken]

/-- Moving an entry does not change what is registered. -/
theorem registrations_modify (window : Window) (index : Nat) (x y : Int) :
    ({ window with
        entries := window.entries.modify index fun entry =>
          { entry with x, y } } : Window).registrations = window.registrations := by
  simp only [registrations]
  induction window.entries generalizing index with
  | nil => simp
  | cons entry rest ih =>
      cases index with
      | zero => simp [List.filterMap_cons]
      | succ index => simp [List.filterMap_cons, ih]

/-- Taking out the entry of a window takes out no registration. -/
theorem registrations_eraseIdx_window {window : Window} {id : WindowId} {index : Nat}
    (found : window.indexOf? (.window id) = some index) :
    ({ window with entries := window.entries.eraseIdx index } : Window).registrations =
      window.registrations := by
  simp only [registrations, eraseIdx_of_indexOf? found]
  clear found
  induction window.entries with
  | nil => rfl
  | cons entry rest ih =>
      by_cases taken : entry.node.child = .window id
      · have unregistered : entry.node.registration? = none := by
          rw [Node.child_eq_window.mp taken, Node.registration?_window]
        simp [taken, unregistered]
      · simp [taken, List.filterMap_cons, ih]

/-- Taking out the entry of a registration takes out this registration and no other. -/
theorem registrations_eraseIdx_source {window : Window} {id : SourceId} {index : Nat}
    (found : window.indexOf? (.source id) = some index) :
    ({ window with entries := window.entries.eraseIdx index } : Window).registrations =
      window.registrations.eraseP (·.1 = id) := by
  simp only [registrations, eraseIdx_of_indexOf? found]
  clear found
  induction window.entries with
  | nil => rfl
  | cons entry rest ih =>
      cases named : entry.node with
      | window other =>
          have unregistered : entry.node.registration? = none := by
            rw [named, Node.registration?_window]
          have kept : ¬ entry.node.child = .source id := by simp [named, Node.child]
          simp [unregistered, kept, ih]
      | source other picture =>
          have registered : entry.node.registration? = some (other, picture) := by
            rw [named, Node.registration?_source]
          have taken_iff : entry.node.child = .source id ↔ other = id := by
            simp [named, Node.child]
          by_cases same : other = id
          · simp [registered, taken_iff, same]
          · simp [registered, taken_iff, same, ih]

end Window

/-! ## Events and ledgers -/

/-- Something that happens to the handles of a compositor. -/
inductive Event where
  /-- A window has been created, and this is its handle. -/
  | issued (id : WindowId)
  | destroyed (id : WindowId)
  /-- A source has been registered on a window, and this is its handle. -/
  | registered (parent : WindowId) (id : SourceId) (source : Source)
  /-- A registration has been taken off a window. -/
  | withdrawn (parent : WindowId) (id : SourceId)

/-- What the handles of a compositor mean. -/
structure Ledger where
  /-- The generation of every slot that there is, and whether a window is in it. -/
  slot? : Nat → Option (UInt32 × Bool)
  /-- The registrations on the window that a handle names. A stale handle has none. -/
  registrations : WindowId → List (SourceId × Source)
  /-- The number of the next registration. -/
  next : UInt32

namespace Ledger

/-- There is a window of this handle. -/
def Names (ledger : Ledger) (id : WindowId) : Prop :=
  ledger.slot? id.slot = some (id.generation, true)

/-- When an event can happen. A handle is issued for an empty slot, in the generation of
the slot, or for a new slot. -/
def Allows (ledger : Ledger) : Event → Prop
  | .issued id =>
      ledger.slot? id.slot = some (id.generation, false) ∨
        ledger.slot? id.slot = none ∧ id.generation = 0
  | .destroyed id => ledger.Names id
  | .registered parent id _ => ledger.Names parent ∧ id.number = ledger.next
  | .withdrawn parent _ => ledger.Names parent

/-- What an event changes. -/
def enter (ledger : Ledger) : Event → Ledger
  | .issued id =>
      { ledger with slot? := Function.update ledger.slot? id.slot (some (id.generation, true)) }
  | .destroyed id =>
      { ledger with
        slot? := Function.update ledger.slot? id.slot (some (id.generation + 1, false))
        registrations := Function.update ledger.registrations id [] }
  | .registered parent id source =>
      { ledger with
        registrations :=
          Function.update ledger.registrations parent
            (ledger.registrations parent ++ [(id, source)])
        next := ledger.next + 1 }
  | .withdrawn parent id =>
      { ledger with
        registrations :=
          Function.update ledger.registrations parent
            ((ledger.registrations parent).eraseP (·.1 = id)) }

/-- Events lead from one ledger to another one. -/
inductive Leads : Ledger → List Event → Ledger → Prop
  | refl (ledger : Ledger) : Leads ledger [] ledger
  | head {ledger left : Ledger} {event : Event} {rest : List Event}
      (allowed : ledger.Allows event) (further : Leads (ledger.enter event) rest left) :
      Leads ledger (event :: rest) left

theorem Leads.append {first mid left : Ledger} {earlier later : List Event}
    (before : Leads first earlier mid) (after : Leads mid later left) :
    Leads first (earlier ++ later) left := by
  induction before with
  | refl => exact after
  | head allowed _ ih => exact .head allowed (ih after)

/-- A history can be taken up in the middle. -/
theorem Leads.split {first left : Ledger} {earlier later : List Event}
    (whole : Leads first (earlier ++ later) left) :
    ∃ mid, Leads first earlier mid ∧ Leads mid later left := by
  induction earlier generalizing first with
  | nil => exact ⟨first, .refl first, whole⟩
  | cons event rest ih =>
      cases whole with
      | head allowed further =>
          obtain ⟨mid, before, after⟩ := ih further
          exact ⟨mid, .head allowed before, after⟩

/-- The same, at a given event. -/
theorem Leads.split_at {first left : Ledger} {earlier later : List Event} {event : Event}
    (whole : Leads first (earlier ++ event :: later) left) :
    ∃ mid, Leads first earlier mid ∧ mid.Allows event ∧ Leads (mid.enter event) later left := by
  obtain ⟨mid, before, after⟩ := whole.split
  cases after with
  | head allowed further => exact ⟨mid, before, allowed, further⟩

theorem Leads.single {ledger left : Ledger} {event : Event} (allowed : ledger.Allows event)
    (entered : left = ledger.enter event) : Leads ledger [event] left := by
  rw [entered]
  exact .head allowed (.refl _)

theorem Leads.of_eq {ledger left : Ledger} (same : left = ledger) : Leads ledger [] left := by
  rw [same]
  exact .refl ledger

end Ledger

namespace Compositor

variable {c : Compositor}

/-- What the handles of a compositor mean. -/
def ledger (c : Compositor) : Ledger where
  slot? slot := (c.slots[slot]?).map fun held => (held.generation, held.window.isSome)
  registrations id := ((c.find? id).map (·.registrations)).getD []
  next := c.nextSource

theorem ledger_registrations {id : WindowId} {window : Window}
    (found : c.find? id = some window) : c.ledger.registrations id = window.registrations := by
  simp only [ledger, found]
  rfl

/-- A handle is alive exactly if the ledger knows its window. -/
theorem ledger_names {id : WindowId} : c.ledger.Names id ↔ c.isAlive id = true := by
  rw [isAlive_iff]
  simp only [find?_eq_some, Ledger.Names, ledger]
  cases c.slots[id.slot]? with
  | none => simp
  | some held =>
      obtain ⟨generation, content⟩ := held
      cases content <;> simp

theorem ledger_names_of_find? {id : WindowId} {window : Window}
    (found : c.find? id = some window) : c.ledger.Names id :=
  ledger_names.mpr (isAlive_of_find? found)

/-! ## Changes that are no events -/

/-- A change of one window can at most change what is registered on it. -/
theorem ledger_update (c : Compositor) (id : WindowId) (change : Window → Window) :
    (c.update id change).ledger =
      { c.ledger with
        registrations :=
          Function.update c.ledger.registrations id
            (((c.find? id).map fun window => (change window).registrations).getD []) } := by
  have slots : ∀ slot, (c.update id change).ledger.slot? slot = c.ledger.slot? slot := by
    intro slot
    unfold update
    split
    · simp only [ledger, Array.getElem?_modify]
      split
      · rw [Option.map_map]
        refine congrArg (Option.map · _) (funext fun held => ?_)
        simp
      · rfl
    · rfl
  have registrations : ∀ other, (c.update id change).ledger.registrations other =
      Function.update c.ledger.registrations id
        (((c.find? id).map fun window => (change window).registrations).getD []) other := by
    intro other
    rw [Function.update_apply]
    simp only [ledger, find?_update]
    split
    · rename_i here
      rw [here, Option.map_map]
      rfl
    · rfl
  have next : (c.update id change).ledger.next = c.ledger.next := by
    unfold update
    split <;> rfl
  rw [Ledger.mk.injEq]
  exact ⟨funext slots, funext registrations, next⟩

/-- Changing a window but not the sources on it is no event. -/
theorem ledger_update_of_same {id : WindowId} {change : Window → Window}
    (same : ∀ window, c.find? id = some window →
      (change window).registrations = window.registrations) :
    (c.update id change).ledger = c.ledger := by
  have kept : ((c.find? id).map fun window => (change window).registrations).getD [] =
      c.ledger.registrations id := by
    cases found : c.find? id with
    | none => simp [ledger, found]
    | some window =>
        rw [ledger_registrations found]
        exact same window found
  rw [ledger_update, kept, Function.update_eq_self]

/-- Changing the link of a window is no event. -/
theorem ledger_relink (c : Compositor) (id : WindowId) (parent : Option WindowId) :
    (c.update id fun window => { window with parent }).ledger = c.ledger :=
  ledger_update_of_same fun _ _ => rfl

/-- Taking a window off its parent is no event. -/
theorem ledger_unlink (c : Compositor) (id : WindowId) : (c.unlink id).ledger = c.ledger := by
  cases link : c.parent? id with
  | none => rw [unlink_of_loose link]
  | some below =>
      rw [unlink_of_link link,
        ledger_update_of_same fun window _ => window.registrations_withoutChild id,
        ledger_relink]

/-- Laying a window on another one is no event. -/
theorem ledger_attach (c : Compositor) (parent child : WindowId) (x y : Int) :
    (c.attach parent child x y).ledger = c.ledger := by
  have unregistered (window : Window) :
      (window.withEntry { node := .window child, x, y }).registrations = window.registrations := by
    rw [window.registrations_withEntry, Node.registration?_window, Option.toList_none,
      List.append_nil]
  rw [attach, ledger_relink, ledger_update_of_same fun window _ => unregistered window,
    ledger_unlink]

/-- Taking a window off the given parent is no event. -/
theorem ledger_detach {parent child : WindowId} {window : Window} {index : Nat}
    (below : c.find? parent = some window) (found : window.indexOf? (.window child) = some index) :
    (c.detach parent child index).ledger = c.ledger := by
  rw [detach, ledger_relink, ledger_update_of_same]
  intro other same
  obtain rfl : window = other := Option.some.inj (below.symm.trans same)
  exact Window.registrations_eraseIdx_window found

/-- Cutting links is no event. -/
theorem ledger_orphanAll (c : Compositor) (entries : List Entry) :
    (c.orphanAll entries).ledger = c.ledger := by
  induction entries generalizing c with
  | nil => rfl
  | cons entry rest ih =>
      have step : (c.orphan entry.node).ledger = c.ledger := by
        cases entry.node with
        | window id => exact c.ledger_relink id none
        | source id picture => rfl
      exact (ih (c.orphan entry.node)).trans step

/-! ## Changes that are events -/

/-- A window that comes into an empty slot. -/
theorem leads_occupy {slot : Nat} {generation : UInt32}
    (empty : c.slots[slot]? = some { generation, window := none }) (free : List Nat)
    (width height : Nat) :
    c.ledger.Leads [.issued { slot, generation }]
      (c.occupy slot free (.fresh width height)).ledger := by
  have stale : c.find? { slot, generation } = none := Vacant.find?_eq_none ⟨generation, empty⟩
  refine .single (.inl ?_) ?_
  · simp [ledger, empty]
  · rw [Ledger.enter, Ledger.mk.injEq]
    refine ⟨funext fun other => ?_, funext fun other => ?_, rfl⟩
    · rw [Function.update_apply]
      simp only [ledger, occupy, Array.getElem?_modify]
      by_cases here : other = slot
      · simp [here, empty]
      · simp [here, Ne.symm here]
    · simp only [ledger, find?_occupy empty]
      by_cases here : other = { slot, generation }
      · rw [if_pos here, here, stale]
        rfl
      · rw [if_neg here]

/-- A window that comes into a new slot. -/
theorem leads_extend (c : Compositor) (width height : Nat) :
    c.ledger.Leads [.issued { slot := c.slots.size, generation := 0 }]
      (c.extend (.fresh width height)).ledger := by
  have stale : c.find? { slot := c.slots.size, generation := 0 } = none := by simp [find?]
  refine .single (.inr ⟨?_, rfl⟩) ?_
  · simp [ledger]
  · rw [Ledger.enter, Ledger.mk.injEq]
    refine ⟨funext fun other => ?_, funext fun other => ?_, rfl⟩
    · rw [Function.update_apply]
      simp only [ledger, extend, Array.getElem?_push]
      split <;> rfl
    · simp only [ledger, find?_extend]
      by_cases here : other = { slot := c.slots.size, generation := 0 }
      · rw [if_pos here, here, stale]
        rfl
      · rw [if_neg here]

/-- Emptying the slot of a window. -/
theorem leads_dissolve {id : WindowId} {window : Window} (found : c.find? id = some window)
    (entries : List Entry) : c.ledger.Leads [.destroyed id] (c.dissolve id entries).ledger := by
  refine .single (ledger_names_of_find? found) ?_
  rw [dissolve, ledger_orphanAll, Ledger.enter, Ledger.mk.injEq]
  refine ⟨funext fun other => ?_, funext fun other => ?_, rfl⟩
  · rw [Function.update_apply]
    simp only [ledger, vacate, Array.getElem?_modify]
    by_cases here : other = id.slot
    · subst here
      simp [find?_eq_some.mp found]
    · simp [here, Ne.symm here]
  · rw [Function.update_apply]
    simp only [ledger, find?_vacate (isAlive_of_find? found)]
    split <;> rfl

/-- Registering a source. -/
theorem leads_register {parent : WindowId} {window : Window} (below : c.find? parent = some window)
    (source : Source) (x y : Int) :
    c.ledger.Leads [.registered parent ⟨c.nextSource⟩ source]
      (c.register parent source x y).ledger := by
  have laid : (c.register parent source x y).ledger =
      { (c.update parent
          (·.withEntry { node := .source ⟨c.nextSource⟩ source, x, y })).ledger with
        next := (c.update parent
          (·.withEntry { node := .source ⟨c.nextSource⟩ source, x, y })).ledger.next + 1 } := rfl
  refine .single ⟨ledger_names_of_find? below, rfl⟩ ?_
  rw [laid, ledger_update, below, Option.map_some, Option.getD_some,
    Window.registrations_withEntry, ← ledger_registrations below]
  rfl

/-- Taking a registration off its window. -/
theorem leads_withdraw {parent : WindowId} {window : Window} {id : SourceId} {index : Nat}
    (below : c.find? parent = some window) (found : window.indexOf? (.source id) = some index) :
    c.ledger.Leads [.withdrawn parent id]
      (c.update parent fun window =>
        { window with entries := window.entries.eraseIdx index }).ledger := by
  refine .single (ledger_names_of_find? below) ?_
  rw [ledger_update, below, Option.map_some, Option.getD_some,
    Window.registrations_eraseIdx_source found, ← ledger_registrations below]
  rfl

end Compositor

end LedMatrix
