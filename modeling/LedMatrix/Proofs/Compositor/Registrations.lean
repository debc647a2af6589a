/-
# What a source handle names

Every registration of a source gets the next number of a counter, whichever window it is
on, and is known by that number alone. The counter has 32 bits, so two registrations get
the same handle exactly if a multiple of `2 ^ 32` of them lies between the two.

`sourceHandles_unique` says what follows: a compositor on which at most `2 ^ 32` sources
have been registered knows all registrations apart, and moving or withdrawing one of them
touches its entry and nothing else. One registration more is too many, as
`sourceHandles_collide` shows: the first source is still on its window when the counter has
come round, and the handle of the newest one moves it.
-/

import LedMatrix.Proofs.Compositor.History

namespace LedMatrix

/-- A source is registered. -/
def Event.registers : Event → Bool
  | .registered .. => true
  | _ => false

/-- How many sources are registered. -/
def registeredCount (events : List Event) : Nat := events.countP (·.registers)

theorem registeredCount_append (earlier later : List Event) :
    registeredCount (earlier ++ later) = registeredCount earlier + registeredCount later :=
  List.countP_append

theorem registeredCount_cons (event : Event) (rest : List Event) :
    registeredCount (event :: rest) = registeredCount [event] + registeredCount rest :=
  registeredCount_append [event] rest

namespace Ledger

variable {ledger left : Ledger} {events : List Event}

/-! ## The counter -/

theorem enter_next (ledger : Ledger) (event : Event) :
    (ledger.enter event).next = ledger.next + UInt32.ofNat (registeredCount [event]) := by
  have zero : ledger.next + UInt32.ofNat 0 = ledger.next := UInt32.add_zero _
  cases event with
  | issued id => exact zero.symm
  | destroyed id => exact zero.symm
  | registered parent id source => rfl
  | withdrawn parent id => exact zero.symm

/-- The counter counts the registrations. -/
theorem Leads.next_eq (leads : ledger.Leads events left) :
    left.next = ledger.next + UInt32.ofNat (registeredCount events) := by
  induction leads with
  | refl ledger => exact (UInt32.add_zero _).symm
  | @head ledger left event rest allowed further ih =>
      have counted := registeredCount_cons event rest
      rw [ih, enter_next, counted, UInt32.ofNat_add, UInt32.add_assoc]

/-! ## Handles of registrations -/

/-- All registrations have handles of their own, with numbers that have been counted. -/
structure Distinct (ledger : Ledger) (count : Nat) : Prop where
  next_eq : ledger.next = UInt32.ofNat count
  lt : ∀ parent, ∀ held ∈ ledger.registrations parent, held.1.number.toNat < count
  nodup : ∀ parent, ((ledger.registrations parent).map (·.1)).Nodup
  apart : ∀ parent other, ∀ held ∈ ledger.registrations parent,
    ∀ twin ∈ ledger.registrations other, held.1 = twin.1 → parent = other

/-- Registrations that go do no harm. -/
theorem Distinct.of_sublist {count : Nat} (distinct : ledger.Distinct count)
    (next : left.next = ledger.next)
    (fewer : ∀ parent, (left.registrations parent).Sublist (ledger.registrations parent)) :
    left.Distinct count where
  next_eq := next.trans distinct.next_eq
  lt parent held here := distinct.lt parent held ((fewer parent).subset here)
  nodup parent := (distinct.nodup parent).sublist ((fewer parent).map _)
  apart parent other held here twin there :=
    distinct.apart parent other held ((fewer parent).subset here) twin ((fewer other).subset there)

/-- A window has the registrations that it had, and a new one if it is the given window. -/
theorem mem_registrations_registered {parent other : WindowId} {id : SourceId} {source : Source}
    {held : SourceId × Source} :
    held ∈ (ledger.enter (.registered parent id source)).registrations other ↔
      held ∈ ledger.registrations other ∨ other = parent ∧ held = (id, source) := by
  simp only [enter, Function.update_apply]
  by_cases here : other = parent
  · simp [here]
  · simp [here]

/-- A registration whose number has not been used before. -/
theorem Distinct.registered {count : Nat} (distinct : ledger.Distinct count) (parent : WindowId)
    {id : SourceId} (number : id.number.toNat = count) (source : Source) :
    (ledger.enter (.registered parent id source)).Distinct (count + 1) := by
  have new (other : WindowId) (held : SourceId × Source)
      (there : held ∈ ledger.registrations other) : held.1 ≠ id := by
    rintro rfl
    have used := distinct.lt other held there
    omega
  constructor
  · rw [enter_next, distinct.next_eq, UInt32.ofNat_add]
    rfl
  · intro other held here
    rcases mem_registrations_registered.mp here with there | ⟨-, rfl⟩
    · have used := distinct.lt other held there
      omega
    · dsimp only
      omega
  · intro other
    simp only [enter, Function.update_apply]
    split
    · rw [List.map_append, List.nodup_append]
      refine ⟨distinct.nodup parent, List.nodup_singleton _, ?_⟩
      intro one old other last same
      obtain ⟨held, there, rfl⟩ := List.mem_map.mp old
      obtain rfl : other = id := List.mem_singleton.mp last
      exact new parent held there same
    · exact distinct.nodup other
  · intro first second held here twin there same
    rcases mem_registrations_registered.mp here with old | ⟨rfl, rfl⟩
    · rcases mem_registrations_registered.mp there with old' | ⟨-, rfl⟩
      · exact distinct.apart first second held old twin old' same
      · exact absurd same (new first held old)
    · rcases mem_registrations_registered.mp there with old' | ⟨rfl, -⟩
      · exact absurd same.symm (new second twin old')
      · rfl

/-- One event keeps the handles distinct as long as there are numbers left. -/
theorem Distinct.enter {count : Nat} (distinct : ledger.Distinct count) {event : Event}
    (allowed : ledger.Allows event)
    (few : count + registeredCount [event] ≤ 0x100000000) :
    (ledger.enter event).Distinct (count + registeredCount [event]) := by
  cases event with
  | issued id => exact distinct.of_sublist rfl fun _ => List.Sublist.refl _
  | destroyed id =>
      have fewer (parent : WindowId) :
          ((ledger.enter (.destroyed id)).registrations parent).Sublist
            (ledger.registrations parent) := by
        simp only [Ledger.enter, Function.update_apply]
        split
        · exact List.nil_sublist _
        · exact List.Sublist.refl _
      exact distinct.of_sublist rfl fewer
  | registered parent id source =>
      obtain ⟨-, number⟩ := allowed
      have below : count < 0x100000000 := few
      apply distinct.registered
      rw [number, distinct.next_eq]
      exact UInt32.toNat_ofNat_of_lt' below
  | withdrawn parent id =>
      have fewer (other : WindowId) :
          ((ledger.enter (.withdrawn parent id)).registrations other).Sublist
            (ledger.registrations other) := by
        simp only [Ledger.enter, Function.update_apply]
        split
        · rename_i here
          rw [here]
          exact List.eraseP_sublist
        · exact List.Sublist.refl _
      exact distinct.of_sublist rfl fewer

/-- **The handles stay distinct until the counter has come round.** -/
theorem Leads.distinct (leads : ledger.Leads events left) {count : Nat}
    (distinct : ledger.Distinct count) (few : count + registeredCount events ≤ 0x100000000) :
    left.Distinct (count + registeredCount events) := by
  induction leads generalizing count with
  | refl ledger => exact distinct
  | @head ledger left event rest allowed further ih =>
      have counted := registeredCount_cons event rest
      have entered := distinct.enter allowed (by omega)
      have last := ih entered (by omega)
      rwa [counted, ← Nat.add_assoc]

/-- One event takes no registration away but the one that it withdraws and those of the
window that it destroys. -/
theorem mem_registrations_enter {event : Event} {parent : WindowId} {held : SourceId × Source}
    (here : held ∈ ledger.registrations parent) (kept : event ≠ .withdrawn parent held.1)
    (alive : event ≠ .destroyed parent) : held ∈ (ledger.enter event).registrations parent := by
  cases event with
  | issued id => exact here
  | destroyed id =>
      have other : parent ≠ id := fun same => alive (congrArg Event.destroyed same.symm)
      simp only [enter]
      rwa [Function.update_of_ne other]
  | registered below id source => exact mem_registrations_registered.mpr (.inl here)
  | withdrawn below id =>
      simp only [enter, Function.update_apply]
      split
      · rename_i same
        have other : held.1 ≠ id := by
          rintro rfl
          exact kept (by rw [same])
        rw [← same]
        exact (List.mem_eraseP_of_neg (by simpa using other)).mpr here
      · exact here

/-- A registration stays until it is withdrawn or its window is destroyed. -/
theorem Leads.mem_registrations (leads : ledger.Leads events left) {parent : WindowId}
    {held : SourceId × Source} (here : held ∈ ledger.registrations parent)
    (kept : .withdrawn parent held.1 ∉ events) (alive : .destroyed parent ∉ events) :
    held ∈ left.registrations parent := by
  induction leads with
  | refl ledger => exact here
  | @head ledger left event rest allowed further ih =>
      obtain ⟨keptFirst, keptLater⟩ := not_or.mp (mt List.mem_cons.mpr kept)
      obtain ⟨aliveFirst, aliveLater⟩ := not_or.mp (mt List.mem_cons.mpr alive)
      have entered := mem_registrations_enter here (Ne.symm keptFirst) (Ne.symm aliveFirst)
      exact ih entered keptLater aliveLater

end Ledger

/-! ## Entries of registrations -/

namespace Window

/-- A registration stands in some place of the registry. -/
theorem exists_entry {window : Window} {id : SourceId} {source : Source}
    (here : (id, source) ∈ window.registrations) :
    ∃ earlier x y later,
      window.entries = earlier ++ { node := .source id source, x, y } :: later := by
  obtain ⟨entry, member, registered⟩ := List.mem_filterMap.mp here
  obtain ⟨earlier, later, split⟩ := List.append_of_mem member
  obtain ⟨node, x, y⟩ := entry
  cases node with
  | window other => cases registered
  | source other picture =>
      cases registered
      exact ⟨earlier, x, y, later, split⟩

/-- An entry that no earlier one shares its handle with is the one that is found. -/
theorem indexOf?_of_split {window : Window} {earlier later : List Entry} {entry : Entry}
    (split : window.entries = earlier ++ entry :: later)
    (first : ∀ other ∈ earlier, other.node.child ≠ entry.node.child) :
    window.indexOf? entry.node.child = some earlier.length := by
  have passed : earlier.findIdx? (fun other => other.node.child = entry.node.child) = none := by
    rw [List.findIdx?_eq_none_iff]
    intro other member
    simpa using first other member
  rw [indexOf?, split, List.findIdx?_append, passed, List.findIdx?_cons]
  simp

/-- If all registrations have handles of their own, so have their entries. -/
theorem pairwise_entries {window : Window} (nodup : (window.registrations.map (·.1)).Nodup) :
    window.entries.Pairwise fun one other =>
      ∀ id, one.node.child = .source id → other.node.child ≠ .source id := by
  rw [List.nodup_iff_pairwise_ne, List.pairwise_map, registrations,
    List.pairwise_filterMap] at nodup
  apply nodup.imp
  intro one other distinct id named same
  obtain ⟨source, registered⟩ := Node.child_eq_source.mp named
  obtain ⟨twin, alike⟩ := Node.child_eq_source.mp same
  exact distinct (id, source) registered (id, twin) alike rfl

end Window

namespace Compositor

variable {c : Compositor}

/-- In this place of a window's registry stands the registration of this handle. -/
def SourceAt (c : Compositor) (parent : WindowId) (index : Nat) (id : SourceId) : Prop :=
  ∃ window entry, c.find? parent = some window ∧ window.entries[index]? = some entry ∧
    entry.node.child = .source id

/-- No two registrations in the registries of live windows have the same handle. -/
def SourcesDistinct (c : Compositor) : Prop :=
  ∀ parent index other place id, c.SourceAt parent index id → c.SourceAt other place id →
    parent = other ∧ index = place

/-- A registration is in the registry of its window, and its handle can be used there:
moving and withdrawing it succeed and touch its entry only. -/
def Serves (c : Compositor) (parent : WindowId) (id : SourceId) (source : Source) : Prop :=
  ∃ window earlier x₀ y₀ later,
    c.find? parent = some window ∧
    window.entries = earlier ++ { node := .source id source, x := x₀, y := y₀ } :: later ∧
    (∀ x y, moveSource parent id x y c =
      .ok () (c.update parent fun window =>
        { window with entries := earlier ++ { node := .source id source, x, y } :: later })) ∧
    removeSource parent id c =
      .ok () (c.update parent fun window => { window with entries := earlier ++ later })

/-- The registration in a place of a registry is in the ledger. -/
theorem SourceAt.exists_registration {parent : WindowId} {index : Nat} {id : SourceId}
    (here : c.SourceAt parent index id) :
    ∃ source, (id, source) ∈ c.ledger.registrations parent := by
  obtain ⟨window, entry, found, placed, named⟩ := here
  obtain ⟨source, registered⟩ := Node.child_eq_source.mp named
  use source
  rw [ledger_registrations found]
  exact List.mem_filterMap.mpr ⟨entry, List.mem_of_getElem? placed, registered⟩

/-- Handles that are distinct in the ledger are distinct in the registries. -/
theorem sourcesDistinct_of_distinct {count : Nat} (distinct : c.ledger.Distinct count) :
    c.SourcesDistinct := by
  intro parent index other place id here there
  obtain ⟨source, held⟩ := here.exists_registration
  obtain ⟨twin, alike⟩ := there.exists_registration
  obtain rfl := distinct.apart parent other (id, source) held (id, twin) alike rfl
  obtain ⟨window, entry, found, placed, named⟩ := here
  obtain ⟨same, next, again, beside, called⟩ := there
  obtain rfl : window = same := Option.some.inj (found.symm.trans again)
  have nodup := distinct.nodup parent
  rw [ledger_registrations found] at nodup
  have apart := List.pairwise_iff_getElem.mp (Window.pairwise_entries nodup)
  obtain ⟨below, rfl⟩ := List.getElem?_eq_some_iff.mp placed
  obtain ⟨under, rfl⟩ := List.getElem?_eq_some_iff.mp beside
  refine ⟨rfl, ?_⟩
  rcases Nat.lt_trichotomy index place with before | same | after
  · exact absurd called (apart index place below under before id named)
  · exact same
  · exact absurd named (apart place index under below after id called)

/-- A registration that the ledger knows can be moved and withdrawn by its handle. -/
theorem serves_of_distinct {count : Nat} (distinct : c.ledger.Distinct count) {parent : WindowId}
    {id : SourceId} {source : Source} (held : (id, source) ∈ c.ledger.registrations parent) :
    c.Serves parent id source := by
  cases found : c.find? parent with
  | none => simp [ledger, found] at held
  | some window =>
      have nodup := distinct.nodup parent
      rw [ledger_registrations found] at held nodup
      obtain ⟨earlier, x₀, y₀, later, split⟩ := Window.exists_entry held
      have apart := Window.pairwise_entries nodup
      rw [split, List.pairwise_append] at apart
      obtain ⟨-, -, across⟩ := apart
      have first : ∀ other ∈ earlier, other.node.child ≠ .source id := by
        intro other member same
        exact across other member _ List.mem_cons_self id same rfl
      have index : window.indexOf? (.source id) = some earlier.length :=
        Window.indexOf?_of_split split first
      refine ⟨window, earlier, x₀, y₀, later, found, split, ?_, ?_⟩
      · intro x y
        rw [moveSource, setOffset_eq, found]
        simp only [index]
        refine congrArg (EStateM.Result.ok ()) (update_congr found ?_)
        have placed : earlier.length < window.entries.length := by simp [split]
        rw [List.modify_eq_take_cons_drop placed]
        simp [split]
      · rw [removeSource, removeEntry_eq, found]
        simp only [index]
        refine congrArg (EStateM.Result.ok ()) (update_congr found ?_)
        simp [split, List.eraseIdx_append_of_length_le]

/-! ## All runs -/

theorem distinct_empty : empty.ledger.Distinct 0 where
  next_eq := rfl
  lt _ _ here := nomatch here
  nodup _ := List.nodup_nil
  apart _ _ _ here := nomatch here

/-- **Every registration has a handle of its own until the counter comes round.** Two
registrations get the same handle exactly if a multiple of `2 ^ 32` registrations lies
between them. So if at most `2 ^ 32` sources have been registered, all handles in the
registries are different, and a registration that has been neither withdrawn nor destroyed
with its window can be moved and withdrawn by its handle. -/
theorem sourceHandles_unique (actions : List Action) :
    (∀ earlier parent id source between other twin picture later,
      history actions empty =
        earlier ++ .registered parent id source ::
          (between ++ .registered other twin picture :: later) →
        (id = twin ↔ 0x100000000 ∣ registeredCount between + 1)) ∧
    (registeredCount (history actions empty) ≤ 0x100000000 →
      (run actions).SourcesDistinct ∧
        ∀ earlier parent id source later,
          history actions empty = earlier ++ .registered parent id source :: later →
          .withdrawn parent id ∉ later → .destroyed parent ∉ later →
            (run actions).Serves parent id source) := by
  have leads := leads_run actions
  constructor
  · intro earlier parent id source between other twin picture later split
    rw [split] at leads
    obtain ⟨mid, -, ⟨-, first⟩, after⟩ := leads.split_at
    obtain ⟨last, before, ⟨-, second⟩, -⟩ := after.split_at
    have counted : twin.number = id.number + UInt32.ofNat (registeredCount between + 1) := by
      have once : registeredCount [.registered parent id source] = 1 := rfl
      rw [second, before.next_eq, Ledger.enter_next, once, first, Nat.add_comm, UInt32.ofNat_add,
        UInt32.add_assoc]
    rw [← add_ofNat_eq_self id.number, ← counted]
    constructor
    · intro same
      rw [same]
    · intro same
      exact congrArg SourceId.mk same.symm
  · intro few
    have distinct := leads.distinct distinct_empty (by omega)
    refine ⟨sourcesDistinct_of_distinct distinct, ?_⟩
    intro earlier parent id source later split kept alive
    apply serves_of_distinct distinct
    rw [split] at leads
    obtain ⟨mid, -, -, after⟩ := leads.split_at
    apply after.mem_registrations _ kept alive
    exact Ledger.mem_registrations_registered.mpr (.inr ⟨rfl, rfl⟩)

/-! ## The counter comes round -/

/-- A picture of one cell. -/
def tile : Source := (Pixmap.blank 1 1).toSource

/-- A window with some entries. -/
def shelf (entries : List Entry) : Window := { Window.fresh 2 1 with entries }

/-- The shelf is all there is, and the next registration gets this number. -/
def lone (entries : List Entry) (next : UInt32) : Compositor where
  slots := #[{ window := some (shelf entries) }]
  nextSource := next

/-- The source that stays. -/
def resident (x y : Int) : Entry := { node := .source ⟨0⟩ tile, x, y }

/-- A source that comes later. -/
def visitor (number : Nat) : Entry := { node := .source ⟨UInt32.ofNat number⟩ tile, x := 1, y := 0 }

/-- Register a source and withdraw it again. -/
def visit (number : Nat) : List Action :=
  [.addSource ⟨0, 0⟩ tile 1 0, .removeSource ⟨0, 0⟩ ⟨UInt32.ofNat number⟩]

/-- One source comes and stays, and many come and go. -/
def visits (count : Nat) : List Action :=
  .createWindow 2 1 :: .addSource ⟨0, 0⟩ tile 0 0 ::
    (List.range count).flatMap fun earlier => visit (earlier + 1)

/-- After all numbers have been used, one more source comes and stays. -/
def crowd : List Action := visits 0xFFFFFFFF ++ [.addSource ⟨0, 0⟩ tile 1 0]

/-- A visit leaves nothing but the count. -/
theorem afterAll_visit {number : Nat} (new : UInt32.ofNat number ≠ 0) :
    Edit.afterAll ((visit number).map perform) (lone [resident 0 0] (UInt32.ofNat number)) =
      lone [resident 0 0] (UInt32.ofNat (number + 1)) := by
  have came : (perform (.addSource ⟨0, 0⟩ tile 1 0)).after
        (lone [resident 0 0] (UInt32.ofNat number)) =
      lone [resident 0 0, visitor number] (UInt32.ofNat (number + 1)) := by
    rw [UInt32.ofNat_add]
    rfl
  have index : (shelf [resident 0 0, visitor number]).indexOf? (.source ⟨UInt32.ofNat number⟩) =
      some 1 := by
    have first : ∀ other ∈ [resident 0 0], other.node.child ≠ (visitor number).node.child := by
      intro other member same
      rw [List.mem_singleton.mp member] at same
      exact new (SourceId.mk.inj (Child.source.inj same)).symm
    have split : (shelf [resident 0 0, visitor number]).entries =
        [resident 0 0] ++ visitor number :: [] := rfl
    exact Window.indexOf?_of_split split first
  have went : (perform (.removeSource ⟨0, 0⟩ ⟨UInt32.ofNat number⟩)).after
        (lone [resident 0 0, visitor number] (UInt32.ofNat (number + 1))) =
      lone [resident 0 0] (UInt32.ofNat (number + 1)) := by
    have found : (lone [resident 0 0, visitor number] (UInt32.ofNat (number + 1))).find? ⟨0, 0⟩ =
        some (shelf [resident 0 0, visitor number]) := rfl
    rw [perform, Edit.after_map, Edit.after, removeSource, removeEntry_eq, found]
    simp only [index]
    rfl
  calc Edit.afterAll ((visit number).map perform) (lone [resident 0 0] (UInt32.ofNat number))
      = (perform (.removeSource ⟨0, 0⟩ ⟨UInt32.ofNat number⟩)).after
          ((perform (.addSource ⟨0, 0⟩ tile 1 0)).after
            (lone [resident 0 0] (UInt32.ofNat number))) := rfl
    _ = lone [resident 0 0] (UInt32.ofNat (number + 1)) := by rw [came, went]

/-- As long as the counter has not come round, the visitors are told from the resident. -/
theorem run_visits {count : Nat} (few : count < 0x100000000) :
    run (visits count) = lone [resident 0 0] (UInt32.ofNat (count + 1)) := by
  induction count with
  | zero => rfl
  | succ count ih =>
      have new : UInt32.ofNat (count + 1) ≠ 0 := by
        intro zero
        have value := congrArg UInt32.toNat zero
        rw [UInt32.toNat_ofNat_of_lt' few] at value
        cases value
      have last : visits (count + 1) = visits count ++ visit (count + 1) := by
        rw [visits, List.range_succ, List.flatMap_append, List.flatMap_singleton]
        rfl
      rw [last, run_append, ih (by omega), afterAll_visit new]

/-- **Too many registrations share a handle.** When the counter has come round, the newest
source has the handle of the oldest one, which is still there, and moving the newest one by
its handle moves the oldest one. -/
theorem sourceHandles_collide :
    (perform (.addSource ⟨0, 0⟩ tile 1 0)).answer (run (visits 0xFFFFFFFF)) =
        .ok (.source ⟨0⟩) ∧
      run crowd = lone [resident 0 0, visitor 0] 1 ∧
      ¬ (run crowd).SourcesDistinct ∧
      run (crowd ++ [.moveSource ⟨0, 0⟩ ⟨0⟩ 0 5]) = lone [resident 0 5, visitor 0] 1 := by
  have full : run (visits 0xFFFFFFFF) = lone [resident 0 0] 0 := run_visits (by decide)
  have crowded : run crowd = lone [resident 0 0, visitor 0] 1 := by
    rw [crowd, run_append, full]
    rfl
  refine ⟨?_, crowded, ?_, ?_⟩
  · rw [full]
    rfl
  · rw [crowded]
    intro distinct
    have first : (lone [resident 0 0, visitor 0] 1).SourceAt ⟨0, 0⟩ 0 ⟨0⟩ :=
      ⟨_, _, rfl, rfl, rfl⟩
    have second : (lone [resident 0 0, visitor 0] 1).SourceAt ⟨0, 0⟩ 1 ⟨0⟩ :=
      ⟨_, _, rfl, rfl, rfl⟩
    cases (distinct _ _ _ _ _ first second).2
  · rw [run_append, crowded]
    rfl

end Compositor

end LedMatrix
