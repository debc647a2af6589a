/-
# What a window handle names

A slot is used again and again, and only the generation in a handle tells its window from
those that were in the slot before. The generation is counted up whenever the window in
the slot is destroyed, so it says how often that has happened (`Leads.slot?_eq`), but it is a
32-bit number and says so only up to a multiple of `2 ^ 32`.

`handles_exact` draws the consequences for every run. A handle names its window until that
window is destroyed; afterwards it names whatever is in its slot exactly if the slot has been
emptied a multiple of `2 ^ 32` times since. Up to then no handle is issued twice, and with
the handle of a destroyed window nothing can be read or changed.
-/

import LedMatrix.Proofs.Compositor.History

namespace LedMatrix

/-- The window in this slot is destroyed. -/
def Event.destroysIn (slot : Nat) : Event → Bool
  | .destroyed id => id.slot = slot
  | _ => false

/-- The handle that is issued, if one is. -/
def Event.issued? : Event → Option WindowId
  | .issued id => some id
  | _ => none

/-- How often the window in a slot is destroyed. -/
def destructions (slot : Nat) (events : List Event) : Nat := events.countP (·.destroysIn slot)

/-- The handles that are issued, in this order. -/
def issuedHandles (events : List Event) : List WindowId := events.filterMap (·.issued?)

theorem mem_issuedHandles {id : WindowId} {events : List Event} :
    id ∈ issuedHandles events ↔ .issued id ∈ events := by
  rw [issuedHandles, List.mem_filterMap]
  constructor
  · rintro ⟨event, member, issued⟩
    cases event with
    | issued other =>
        obtain rfl : other = id := Option.some.inj issued
        exact member
    | destroyed other => cases issued
    | registered parent source picture => cases issued
    | withdrawn parent source => cases issued
  · intro member
    exact ⟨.issued id, member, rfl⟩

theorem destructions_append (slot : Nat) (earlier later : List Event) :
    destructions slot (earlier ++ later) = destructions slot earlier + destructions slot later :=
  List.countP_append

theorem destructions_cons (slot : Nat) (event : Event) (rest : List Event) :
    destructions slot (event :: rest) = destructions slot [event] + destructions slot rest :=
  destructions_append slot [event] rest

theorem destructions_destroyed (id : WindowId) : destructions id.slot [.destroyed id] = 1 := by
  simp [destructions, Event.destroysIn]

theorem destructions_pos {id : WindowId} {events : List Event} (member : .destroyed id ∈ events) :
    0 < destructions id.slot events := by
  apply List.countP_pos_iff.mpr
  exact ⟨.destroyed id, member, by simp [Event.destroysIn]⟩

namespace Ledger

variable {ledger left : Ledger} {events : List Event}

/-! ## Slots along a history -/

theorem slot?_inj {slot : Nat} {one other : UInt32} {held holds : Bool}
    (first : ledger.slot? slot = some (one, held))
    (second : ledger.slot? slot = some (other, holds)) : one = other ∧ held = holds := by
  simpa using first.symm.trans second

/-- There is only one window in a slot. -/
theorem Names.unique {id other : WindowId} (one : ledger.Names id) (two : ledger.Names other)
    (same : other.slot = id.slot) : other = id := by
  obtain ⟨slot, generation⟩ := id
  obtain ⟨place, count⟩ := other
  obtain rfl : place = slot := same
  obtain ⟨rfl, -⟩ := slot?_inj one two
  rfl

theorem Names.of_issued (ledger : Ledger) (id : WindowId) : (ledger.enter (.issued id)).Names id :=
  Function.update_self ..

/-- One event counts up the generation of a slot or keeps it, and only an event that counts
it up takes the window away. -/
theorem enter_slot? {event : Event} (allowed : ledger.Allows event) {slot : Nat}
    {generation : UInt32} {held : Bool} (before : ledger.slot? slot = some (generation, held)) :
    ∃ holds,
      (ledger.enter event).slot? slot =
        some (generation + UInt32.ofNat (destructions slot [event]), holds) ∧
      (destructions slot [event] = 0 → held = true → holds = true) := by
  have zero (value : UInt32) : value + UInt32.ofNat 0 = value := UInt32.add_zero value
  have untouched (none : destructions slot [event] = 0)
      (same : (ledger.enter event).slot? slot = ledger.slot? slot) :
      ∃ holds,
        (ledger.enter event).slot? slot =
          some (generation + UInt32.ofNat (destructions slot [event]), holds) ∧
        (destructions slot [event] = 0 → held = true → holds = true) := by
    rw [same, before, none, zero]
    exact ⟨held, rfl, fun _ here => here⟩
  cases event with
  | issued id =>
      by_cases here : slot = id.slot
      · subst here
        have none : destructions id.slot [.issued id] = 0 := rfl
        rcases allowed with vacant | ⟨new, -⟩
        · obtain ⟨same, -⟩ := slot?_inj before vacant
          rw [none, zero, same]
          exact ⟨true, Names.of_issued ledger id, fun _ _ => rfl⟩
        · rw [before] at new
          cases new
      · exact untouched rfl (Function.update_of_ne here ..)
  | destroyed id =>
      by_cases here : slot = id.slot
      · subst here
        obtain ⟨same, -⟩ := slot?_inj before allowed
        rw [destructions_destroyed, same]
        exact ⟨false, Function.update_self .., fun none => nomatch none⟩
      · have none : destructions slot [.destroyed id] = 0 := by
          simp [destructions, Event.destroysIn, Ne.symm here]
        exact untouched none (Function.update_of_ne here ..)
  | registered parent id source => exact untouched rfl rfl
  | withdrawn parent id => exact untouched rfl rfl

/-- The generation of a slot counts the windows that are destroyed in it. -/
theorem Leads.slot?_eq (leads : ledger.Leads events left) {slot : Nat} {generation : UInt32}
    {held : Bool} (before : ledger.slot? slot = some (generation, held)) :
    ∃ holds,
      left.slot? slot =
        some (generation + UInt32.ofNat (destructions slot events), holds) ∧
      (destructions slot events = 0 → held = true → holds = true) := by
  induction leads generalizing generation held with
  | refl ledger =>
      refine ⟨held, ?_, fun _ => id⟩
      simp [destructions, before]
  | @head ledger left event rest allowed further ih =>
      obtain ⟨between, entered, first⟩ := enter_slot? allowed before
      obtain ⟨holds, last, second⟩ := ih entered
      have count := destructions_cons slot event rest
      refine ⟨holds, ?_, ?_⟩
      · rw [last, count, UInt32.ofNat_add, UInt32.add_assoc]
      · intro none here
        exact second (by omega) (first (by omega) here)

/-- Where no window is destroyed, the window in the slot stays. -/
theorem Leads.names_of_none (leads : ledger.Leads events left) {id : WindowId}
    (named : ledger.Names id) (none : destructions id.slot events = 0) : left.Names id := by
  obtain ⟨holds, last, still⟩ := leads.slot?_eq named
  have zero : id.generation + UInt32.ofNat 0 = id.generation := UInt32.add_zero _
  rw [Names, last, still none rfl, none, zero]

/-- A window stays until it is destroyed itself. -/
theorem Leads.destructions_eq_zero (leads : ledger.Leads events left) {id : WindowId}
    (named : ledger.Names id) (spared : .destroyed id ∉ events) :
    destructions id.slot events = 0 := by
  induction leads with
  | refl ledger => rfl
  | @head ledger left event rest allowed further ih =>
      obtain ⟨first, later⟩ := not_or.mp (mt List.mem_cons.mpr spared)
      have none : destructions id.slot [event] = 0 := by
        cases event with
        | destroyed other =>
            by_contra some
            have here : other.slot = id.slot := by
              simpa [destructions, Event.destroysIn] using some
            exact first (congrArg Event.destroyed (named.unique allowed here).symm)
        | issued other => rfl
        | registered parent source picture => rfl
        | withdrawn parent source => rfl
      have kept := (Leads.single allowed rfl).names_of_none named none
      rw [destructions_cons, none, ih kept later]

/-! ## Handles along a history -/

/-- **What a handle names after a history** that begins with its window. -/
theorem Leads.names_iff (leads : ledger.Leads events left) {id : WindowId}
    (named : ledger.Names id) :
    left.Names id ↔
      .destroyed id ∉ events ∨
        (∃ generation, left.slot? id.slot = some (generation, true)) ∧
          0 < destructions id.slot events ∧ 0x100000000 ∣ destructions id.slot events := by
  obtain ⟨holds, last, -⟩ := leads.slot?_eq named
  constructor
  · intro again
    by_cases spared : .destroyed id ∉ events
    · exact .inl spared
    · have member : .destroyed id ∈ events := not_not.mp spared
      obtain ⟨same, -⟩ := slot?_inj last again
      exact .inr ⟨⟨id.generation, again⟩, destructions_pos member,
        (add_ofNat_eq_self _ _).mp same⟩
  · rintro (spared | ⟨⟨generation, occupied⟩, -, round⟩)
    · exact leads.names_of_none named (leads.destructions_eq_zero named spared)
    · obtain ⟨-, holding⟩ := slot?_inj last occupied
      rw [Names, last, (add_ofNat_eq_self _ _).mpr round, holding]

/-- The handle of a window is not issued again before its slot has been emptied
`2 ^ 32` times. -/
theorem Leads.not_issued_again (leads : ledger.Leads events left) {id : WindowId}
    (named : ledger.Names id) (few : destructions id.slot events < 0x100000000) :
    .issued id ∉ events := by
  intro again
  obtain ⟨earlier, later, rfl⟩ := List.append_of_mem again
  obtain ⟨mid, before, allowed, -⟩ := leads.split_at
  obtain ⟨holds, found, still⟩ := before.slot?_eq named
  rw [destructions_append] at few
  rcases allowed with vacant | ⟨new, -⟩
  · obtain ⟨same, empty⟩ := slot?_inj found vacant
    have round := (add_ofNat_eq_self _ _).mp same
    have none : destructions id.slot earlier = 0 := by omega
    rw [still none rfl] at empty
    cases empty
  · rw [found] at new
    cases new

theorem Leads.nodup_issuedHandles (leads : ledger.Leads events left)
    (few : ∀ slot, destructions slot events < 0x100000000) : (issuedHandles events).Nodup := by
  induction leads with
  | refl ledger => exact List.nodup_nil
  | @head ledger left event rest allowed further ih =>
      have fewer (slot : Nat) : destructions slot rest < 0x100000000 := by
        have all := few slot
        rw [destructions_cons] at all
        omega
      cases event with
      | issued id =>
          have new : id ∉ issuedHandles rest := by
            rw [mem_issuedHandles]
            exact further.not_issued_again (Names.of_issued ledger id) (fewer id.slot)
          exact List.nodup_cons.mpr ⟨new, ih fewer⟩
      | destroyed id => exact ih fewer
      | registered parent id source => exact ih fewer
      | withdrawn parent id => exact ih fewer

/-- The handle of a destroyed window names nothing before its slot has been emptied
`2 ^ 32` times. -/
theorem Leads.not_names_destroyed (leads : ledger.Leads events left) {id : WindowId}
    (destroyed : .destroyed id ∈ events) (few : destructions id.slot events < 0x100000000) :
    ¬ left.Names id := by
  intro again
  obtain ⟨earlier, later, rfl⟩ := List.append_of_mem destroyed
  obtain ⟨mid, -, -, after⟩ := leads.split_at
  have emptied : (mid.enter (.destroyed id)).slot? id.slot = some (id.generation + 1, false) :=
    Function.update_self ..
  obtain ⟨holds, last, -⟩ := after.slot?_eq emptied
  rw [destructions_append, destructions_cons, destructions_destroyed] at few
  obtain ⟨same, -⟩ := slot?_inj last again
  have round : 0x100000000 ∣ 1 + destructions id.slot later := by
    rw [← add_ofNat_eq_self id.generation, UInt32.ofNat_add, ← UInt32.add_assoc]
    exact same
  omega

end Ledger

namespace Compositor

variable {c : Compositor}

/-! ## Requests with a stale handle -/

/-- The window handles that a request gives. -/
def Action.handles : Action → List WindowId
  | .createWindow .. => []
  | .createChild parent .. => [parent]
  | .destroy id => [id]
  | .add parent child .. => [parent, child]
  | .addSource parent .. => [parent]
  | .remove parent child => [parent, child]
  | .removeSource parent _ => [parent]
  | .moveWindow id .. => [id]
  | .moveSource parent .. => [parent]
  | .drawWindow target source .. => [target, source]
  | .paint id _ => [id]

/-- The request fails and changes nothing. It blames a stale handle that it was given, or
else the picture that was to be drawn. -/
def Rebuffs (c : Compositor) (action : Action) : Prop :=
  ∃ cause, perform action c = .error cause c ∧
    ((∃ id ∈ action.handles, c.find? id = none ∧ cause = .staleWindow id) ∨
      ∃ target source x y flip, action = .drawWindow target source x y flip ∧
        c.snapshot source = .error cause)

/-- Nothing can be read and nothing can be changed with this handle. -/
structure Disowns (c : Compositor) (id : WindowId) : Prop where
  isAlive_eq : c.isAlive id = false
  window_eq : c.window id = .error (.staleWindow id)
  amend_eq : ∀ change, amend id change c = .error (.staleWindow id) c
  parent_eq : c.parent id = .error (.staleWindow id)
  position_eq : c.position id = .error (.staleWindow id)
  children_eq : c.children id = .error (.staleWindow id)
  childCount_eq : c.childCount id = .error (.staleWindow id)
  pixel_eq : ∀ x y, c.pixel id x y = .error (.staleWindow id)
  view_eq : c.view id = .error (.staleWindow id)
  snapshot_eq : c.snapshot id = .error (.staleWindow id)
  rebuffs : ∀ action, id ∈ action.handles → c.Rebuffs action

theorem rebuffs_of_error {id : WindowId} {action : Action} (stale : c.find? id = none)
    (given : id ∈ action.handles) (ran : perform action c = .error (.staleWindow id) c) :
    c.Rebuffs action :=
  ⟨.staleWindow id, ran, .inl ⟨id, given, stale, rfl⟩⟩

/-- Every request looks up its handles before it changes anything. -/
theorem rebuffs_of_stale {id : WindowId} (stale : c.find? id = none) {action : Action}
    (given : id ∈ action.handles) : c.Rebuffs action := by
  cases action with
  | createWindow width height => cases given
  | createChild parent x y width height =>
      obtain rfl := List.mem_singleton.mp given
      exact rebuffs_of_error stale given (Edit.map_of_error (fetch_bind_of_none stale) _)
  | destroy other =>
      obtain rfl := List.mem_singleton.mp given
      exact rebuffs_of_error stale given (Edit.map_of_error (fetch_bind_of_none stale) _)
  | add parent child x y =>
      have run := add_eq parent child x y c
      cases below : c.find? parent with
      | none =>
          rw [below] at run
          exact rebuffs_of_error below List.mem_cons_self (Edit.map_of_error run _)
      | some window =>
          obtain rfl : id = child := by
            rcases List.mem_cons.mp given with rfl | last
            · rw [stale] at below
              cases below
            · exact List.mem_singleton.mp last
          rw [below, stale] at run
          exact rebuffs_of_error stale given (Edit.map_of_error run _)
  | addSource parent source x y =>
      obtain rfl := List.mem_singleton.mp given
      have run := addSource_eq id source x y c
      rw [stale] at run
      exact rebuffs_of_error stale given (Edit.map_of_error run _)
  | remove parent child =>
      have run := remove_eq parent child c
      cases above : c.find? child with
      | none =>
          rw [above] at run
          have second : child ∈ [parent, child] := List.mem_cons_of_mem _ List.mem_cons_self
          exact rebuffs_of_error above second (Edit.map_of_error run _)
      | some moved =>
          obtain rfl : id = parent := by
            rcases List.mem_cons.mp given with rfl | last
            · rfl
            · rw [← List.mem_singleton.mp last, stale] at above
              cases above
          rw [above, stale] at run
          exact rebuffs_of_error stale given (Edit.map_of_error run _)
  | removeSource parent source =>
      obtain rfl := List.mem_singleton.mp given
      have run := removeEntry_eq id (.source source) c
      rw [stale] at run
      exact rebuffs_of_error stale given (Edit.map_of_error run _)
  | moveWindow other x y =>
      obtain rfl := List.mem_singleton.mp given
      exact rebuffs_of_error stale given (Edit.map_of_error (fetch_bind_of_none stale) _)
  | moveSource parent source x y =>
      obtain rfl := List.mem_singleton.mp given
      have run := setOffset_eq id (.source source) x y c
      rw [stale] at run
      exact rebuffs_of_error stale given (Edit.map_of_error run _)
  | drawWindow target source x y flip =>
      have run := drawWindow_eq target source x y flip c
      cases taken : c.snapshot source with
      | error cause =>
          rw [taken] at run
          exact ⟨cause, Edit.map_of_error run _, .inr ⟨target, source, x, y, flip, rfl, taken⟩⟩
      | ok picture =>
          obtain rfl : id = target := by
            rcases List.mem_cons.mp given with rfl | last
            · rfl
            · rw [← List.mem_singleton.mp last, snapshot, view, Compositor.window, stale] at taken
              cases taken
          rw [taken] at run
          have unpainted : paint id (Pixmap.draw picture.toSource x y flip) c =
              .error (.staleWindow id) c := fetch_bind_of_none stale
          exact rebuffs_of_error stale given (Edit.map_of_error (run.trans unpainted) _)
  | paint other edit =>
      obtain rfl := List.mem_singleton.mp given
      exact rebuffs_of_error stale given (Edit.map_of_error (fetch_bind_of_none stale) _)

/-- **A stale handle is good for nothing.** -/
theorem disowns_of_stale {id : WindowId} (stale : c.find? id = none) : c.Disowns id where
  isAlive_eq := by rw [isAlive, stale]; rfl
  window_eq := by rw [Compositor.window, stale]
  amend_eq _ := fetch_bind_of_none stale
  parent_eq := by rw [Compositor.parent, Compositor.window, stale]; rfl
  position_eq := by rw [position, Compositor.window, stale]; rfl
  children_eq := by rw [children, Compositor.window, stale]; rfl
  childCount_eq := by rw [childCount, Compositor.window, stale]; rfl
  pixel_eq _ _ := by rw [pixel, Compositor.window, stale]; rfl
  view_eq := by rw [view, Compositor.window, stale]; rfl
  snapshot_eq := by rw [snapshot, view, Compositor.window, stale]; rfl
  rebuffs _ given := rebuffs_of_stale stale given

/-! ## All runs -/

/-- There is a window in this slot. -/
def Occupied (c : Compositor) (slot : Nat) : Prop :=
  ∃ generation window, c.slots[slot]? = some { generation, window := some window }

theorem occupied_iff {slot : Nat} :
    c.Occupied slot ↔ ∃ generation, c.ledger.slot? slot = some (generation, true) := by
  simp only [Occupied, ledger]
  cases c.slots[slot]? with
  | none => simp
  | some held =>
      obtain ⟨generation, window⟩ := held
      cases window <;> simp

/-- **A handle names the window for which it was issued**, and nothing else unless its slot
has been emptied a multiple of `2 ^ 32` times since. As long as no slot of a run has been
emptied `2 ^ 32` times, all handles are different and those of destroyed windows are good
for nothing, whatever is in their slots now. -/
theorem handles_exact (actions : List Action) :
    (∀ earlier id later, history actions empty = earlier ++ .issued id :: later →
      ((run actions).isAlive id = true ↔
        .destroyed id ∉ later ∨
          (run actions).Occupied id.slot ∧ 0 < destructions id.slot later ∧
            0x100000000 ∣ destructions id.slot later)) ∧
    ((∀ slot, destructions slot (history actions empty) < 0x100000000) →
      (issuedHandles (history actions empty)).Nodup ∧
        ∀ id, .destroyed id ∈ history actions empty → (run actions).Disowns id) := by
  have leads := leads_run actions
  constructor
  · intro earlier id later split
    rw [split] at leads
    obtain ⟨mid, -, -, after⟩ := leads.split_at
    rw [← ledger_names, occupied_iff]
    exact after.names_iff (Ledger.Names.of_issued mid id)
  · intro few
    constructor
    · exact leads.nodup_issuedHandles few
    · intro id destroyed
      have stale := leads.not_names_destroyed destroyed (few id.slot)
      rw [ledger_names, isAlive, Bool.not_eq_true, Option.isSome_eq_false_iff,
        Option.isNone_iff_eq_none] at stale
      exact disowns_of_stale stale

/-- The slot of a destroyed window is used again under another handle. -/
example :
    history [.createWindow 2 1, .destroy ⟨0, 0⟩, .createWindow 3 3] empty =
      [.issued ⟨0, 0⟩, .destroyed ⟨0, 0⟩, .issued ⟨0, 1⟩] := rfl

end Compositor

end LedMatrix
