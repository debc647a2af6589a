/-
# Laying a window somewhere else

A request to lay a window on another one is refused as a cycle exactly if the one lies on the other
already, directly or further up, or is the other. The compositor finds this out by following links
down; read through the registries it says that the parent would be reached from the child
(`Linked.isAncestorOrSelf_iff_holds`).

Otherwise the window is laid where it is asked for, and `Compositor.Relaid` says what that changes.
Its old entry is gone, also if the old parent is the new one, and its new entry comes last. All
other entries stay in order at their offsets.
-/

import LedMatrix.Proofs.Compositor.Registries

namespace LedMatrix.Compositor

variable {c left : Compositor}

/-- The walk along the links finds out what is reached through the registries. -/
theorem Linked.isAncestorOrSelf_iff_holds (linked : c.Linked) {candidate id : WindowId}
    (alive : c.isAlive id = true) :
    c.isAncestorOrSelf candidate id = true ↔ Relation.ReflTransGen c.Holds candidate id := by
  rw [linked.isAncestorOrSelf_iff alive, linked.reflTransGen_holds_iff]

/-- What becomes of a window when the window `child` is laid on the window `parent`. It keeps its
own picture. Its registry loses the old entry of the child, if it has one, and that of the parent
ends with the new one. Only the child gets another parent. -/
def relaid (parent child : WindowId) (x y : Int) (id : WindowId) (window : Window) : Window where
  buffer := window.buffer
  parent := if id = child then some parent else window.parent
  entries := (window.withoutChild (.window child)).entries ++
    if id = parent then [{ node := .window child, x, y }] else []

/-- What a compositor is like after one of its windows has been laid on another one. -/
structure Relaid (c left : Compositor) (parent child : WindowId) (x y : Int) : Prop where
  find?_eq : ∀ id, left.find? id = (c.find? id).map (relaid parent child x y id)
  /-- What the child carries is as it was. -/
  carries : c.CarriesSame left child
  /-- A window that neither held the child nor holds it now is as it was. -/
  apart : ∀ id, id ≠ child → id ≠ parent → ¬ c.Holds id child → left.find? id = c.find? id
  /-- The child stands in the registry of its parent once, and in no other. -/
  listed : ∀ id window, left.find? id = some window →
    window.children.count (.window child) = if id = parent then 1 else 0
  parent_eq : left.parent child = .ok (some parent)
  position_eq : left.position child = .ok (some (x, y))
  slots : c.SameSlots left

/-! ## The windows afterwards -/

section Relaid

variable {parent child id : WindowId} {window : Window} {x y : Int}

/-- A window that has nothing to do with it stays as it is. -/
theorem relaid_of_apart (moving : id ≠ child) (base : id ≠ parent)
    (missing : Child.window child ∉ window.children) :
    relaid parent child x y id window = window := by
  rw [relaid, if_neg moving, if_neg base, List.append_nil, Window.withoutChild_of_not_mem missing]

/-- The child itself gets another parent. -/
theorem relaid_child (distinct : child ≠ parent) (missing : Child.window child ∉ window.children) :
    relaid parent child x y child window = { window with parent := some parent } := by
  rw [relaid, if_pos rfl, if_neg distinct, List.append_nil,
    Window.withoutChild_of_not_mem missing]

/-- The first entry of the child that is found on its parent is the new one. -/
theorem find?_entries_relaid :
    (relaid parent child x y parent window).entries.find?
        (fun entry => entry.node.child = .window child) =
      some { node := .window child, x, y } := by
  have gone : (window.withoutChild (.window child)).entries.find?
      (fun entry => entry.node.child = .window child) = none := by
    refine List.find?_eq_none.mpr fun entry listed => ?_
    have other := List.of_mem_filter listed
    simpa using other
  rw [relaid, if_pos rfl, List.find?_append, gone]
  simp [Node.child]

end Relaid

/-- What the windows are like after one of them has been laid on another one. -/
theorem Linked.find?_attach (linked : c.Linked) (parent child : WindowId) (x y : Int)
    (id : WindowId) :
    (c.attach parent child x y).find? id = (c.find? id).map (relaid parent child x y id) := by
  rw [Compositor.attach, find?_update, find?_update, linked.find?_unlink_eq]
  cases c.find? id with
  | none => simp
  | some window =>
      simp only [Option.map_some, relaid]
      split_ifs <;> simp [Window.withEntry, Window.withoutChild]

/-- **Laying a window on one that it does not carry changes what `Relaid` says.** -/
theorem Sound.relaid_attach (sound : c.Sound) {parent child : WindowId}
    (below : c.isAlive parent = true) (above : c.isAlive child = true)
    (apart : ¬ Relation.ReflTransGen c.Holds child parent) (x y : Int) :
    c.Relaid (c.attach parent child x y) parent child x y := by
  have linked := sound.linked
  have linked' := (sound.attach below above
    (mt (linked.isAncestorOrSelf_iff_holds below).mp apart) x y).linked
  have found := linked.find?_attach parent child x y
  obtain ⟨base, foundBase⟩ := isAlive_iff.mp below
  obtain ⟨moved, foundMoved⟩ := isAlive_iff.mp above
  have distinct : child ≠ parent := by
    rintro rfl
    exact apart .refl
  have acyclic := linked.not_transGen_holds_self
  have loose (id : WindowId) (moving : id ≠ child) (other : id ≠ parent)
      (free : ¬ c.Holds id child) : (c.attach parent child x y).find? id = c.find? id := by
    rw [found id]
    cases held : c.find? id with
    | none => rfl
    | some window =>
        exact congrArg some (relaid_of_apart moving other fun member => free ⟨window, held, member⟩)
  have foundMoved' :
      (c.attach parent child x y).find? child = some { moved with parent := some parent } := by
    rw [found child, foundMoved, Option.map_some, relaid_child distinct]
    exact fun member => acyclic child (.single ⟨moved, foundMoved, member⟩)
  have foundBase' : (c.attach parent child x y).find? parent =
      some (relaid parent child x y parent base) := by
    rw [found parent, foundBase, Option.map_some]
  have link : (c.attach parent child x y).parent? child = some parent :=
    parent?_of_find? foundMoved'
  constructor
  · exact found
  · refine .of_above foundMoved ?_ fun id further => ?_
    · intro window held
      obtain rfl := Option.some.inj (foundMoved.symm.trans held)
      exact ⟨_, foundMoved'⟩
    · -- What the child carries is neither of the two, nor does it hold the child.
      refine loose id ?_ ?_ fun held => acyclic child (further.tail held)
      · rintro rfl
        exact acyclic id further
      · rintro rfl
        exact apart further.to_reflTransGen
  · exact loose
  · intro id window held
    rw [linked'.count_children held, link]
    simp only [Option.some.injEq, eq_comm]
  · exact parent_of_find? foundMoved'
  · rw [position_of_link foundMoved' rfl foundBase', find?_entries_relaid]
    rfl
  · exact c.sameSlots_attach parent child x y

/-! ## The request -/

/-- **A window is laid exactly where it can be.** Take any two live windows of a reachable
compositor and any offset. The request to lay the one on the other reports a cycle, and changes
nothing, exactly if the parent is the child or is reached from it through registries. Otherwise it
succeeds. The child then has the one entry asked for, the last one of its parent, and carries what
it carried; its old entry is gone, and all other entries and windows stay as they are. -/
theorem add_exact (reachable : c.Reachable) {parent child : WindowId}
    (below : c.isAlive parent = true) (above : c.isAlive child = true) (x y : Int) :
    (add parent child x y c = .error (.cycle parent child) c ↔
      Relation.ReflTransGen c.Holds child parent) ∧
    (¬ Relation.ReflTransGen c.Holds child parent →
      ∃ left, add parent child x y c = .ok () left ∧ c.Relaid left parent child x y) := by
  have sound := reachable.sound
  have decided : c.isAncestorOrSelf child parent = true ↔
      Relation.ReflTransGen c.Holds child parent := sound.linked.isAncestorOrSelf_iff_holds below
  obtain ⟨base, foundBase⟩ := isAlive_iff.mp below
  obtain ⟨moved, foundMoved⟩ := isAlive_iff.mp above
  have ran : add parent child x y c =
      if c.isAncestorOrSelf child parent then .error (.cycle parent child) c
      else .ok () (c.attach parent child x y) := by
    rw [add_eq, foundBase, foundMoved]
  by_cases way : Relation.ReflTransGen c.Holds child parent
  · rw [if_pos (decided.mpr way)] at ran
    exact ⟨iff_of_true ran way, fun apart => absurd way apart⟩
  · rw [if_neg (mt decided.mp way)] at ran
    refine ⟨iff_of_false ?_ way, fun apart =>
      ⟨_, ran, sound.relaid_attach below above apart x y⟩⟩
    intro refused
    cases ran.symm.trans refused

/-- Two windows lie on a third one, with a tile between them. On the lower one of the two lies
another window. -/
def grove : Compositor :=
  run [.createWindow 4 4, .createChild ⟨0, 0⟩ 0 0 2 2, .createChild ⟨1, 0⟩ 0 0 1 1,
    .addSource ⟨0, 0⟩ (Pixmap.blank 1 1).toSource 1 1, .createChild ⟨0, 0⟩ 1 1 1 1]

/-- The lower window cannot be laid on the one that it carries, but again on the one on which it
lies. It is the last one there then. -/
theorem add_exact_grove :
    grove.Reachable ∧ grove.isAlive ⟨0, 0⟩ = true ∧ grove.isAlive ⟨1, 0⟩ = true ∧
    grove.isAlive ⟨2, 0⟩ = true ∧
    add ⟨2, 0⟩ ⟨1, 0⟩ 0 0 grove = .error (.cycle ⟨2, 0⟩ ⟨1, 0⟩) grove ∧
    ∃ left, add ⟨0, 0⟩ ⟨1, 0⟩ 3 2 grove = .ok () left ∧
      grove.Relaid left ⟨0, 0⟩ ⟨1, 0⟩ 3 2 ∧
      left.children ⟨0, 0⟩ =
        .ok [(.source ⟨0⟩, 1, 1), (.window ⟨3, 0⟩, 1, 1), (.window ⟨1, 0⟩, 3, 2)] := by
  have reachable : grove.Reachable := ⟨_, rfl⟩
  have base : grove.isAlive ⟨0, 0⟩ = true := by decide
  have lower : grove.isAlive ⟨1, 0⟩ = true := by decide
  have carried : grove.isAlive ⟨2, 0⟩ = true := by decide
  have held : grove.Holds ⟨1, 0⟩ ⟨2, 0⟩ := ⟨_, rfl, List.mem_singleton.mpr rfl⟩
  obtain ⟨again, moves⟩ := add_exact reachable base lower 3 2
  have apart : ¬ Relation.ReflTransGen grove.Holds ⟨1, 0⟩ ⟨0, 0⟩ := by
    intro way
    have refused := Edit.answer_of_error (again.mpr way)
    have granted : (add ⟨0, 0⟩ ⟨1, 0⟩ 3 2).answer grove = .ok () := rfl
    cases granted.symm.trans refused
  obtain ⟨left, ran, relaid⟩ := moves apart
  refine ⟨reachable, base, lower, carried, (add_exact reachable carried lower 0 0).1.mpr
    (.single held), left, ran, relaid, ?_⟩
  rw [← Edit.after_of_ok ran]
  rfl

end LedMatrix.Compositor
