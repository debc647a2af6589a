/-
# Walks and reads come to an end

The walk along the links and the reading of a window are written with a bound on
their steps, which is the number of slots. Here both are described without any
bound: `WalkEnds` is a finished walk, and `Reads` is a finished reading, whose proof
is the finite tree of the windows that were read. In a reachable compositor there is
such a walk and such a reading for every window, and the bounded functions give
their answers; so the bound is never met.

`pixel_total` adds what a reading can come to. A window that fits, with everything
that lies on it, has a colour at each of its cells, and elsewhere the report names
its own size. Nothing that is looked up or read on the way is missing: the windows
in its registry are alive, each layer is read at one of its own cells, and each cell
of a picture has its place in the memory.
-/

import LedMatrix.Proofs.Compositor.Reading

namespace LedMatrix.Compositor

variable {c : Compositor}

/-! ## Without a bound on the steps -/

/-- A walk along the links from a window comes to an end, and the answer is whether
it has met the candidate. -/
inductive WalkEnds (c : Compositor) (candidate : WindowId) : WindowId → Bool → Prop
  | /-- The walk is where it wants to be. -/
    met : WalkEnds c candidate candidate true
  | /-- There is nothing below. -/
    bottom {id : WindowId} (other : id ≠ candidate) (loose : c.parent? id = none) :
      WalkEnds c candidate id false
  | /-- The walk goes on with the window below. -/
    step {id below : WindowId} {answer : Bool} (other : id ≠ candidate)
      (link : c.parent? id = some below) (rest : WalkEnds c candidate below answer) :
      WalkEnds c candidate id answer

/-- What lies on a window, as something to read, when it is known how each window is
read. -/
def layerBy (c : Compositor) (outcome : WindowId → Int → Int → Except CanvasError Color) :
    Node → Except CanvasError Source
  | .source _ source => .ok source
  | .window id => (c.window id).map fun window => window.source (outcome id)

/-- The reading of a window comes to an end at every position, with the given
outcomes: that of each window in its registry does, and the window is read over
these. -/
inductive Reads (c : Compositor) : Window → (Int → Int → Except CanvasError Color) → Prop
  | layered {window : Window} (outcome : WindowId → Int → Int → Except CanvasError Color)
      (above : ∀ id child, Child.window id ∈ window.children → c.find? id = some child →
        Reads c child (outcome id)) :
      Reads c window (readOver (c.layerBy outcome) window)

/-- A walk has one answer. -/
theorem WalkEnds.unique {candidate id : WindowId} {first second : Bool}
    (one : c.WalkEnds candidate id first) (other : c.WalkEnds candidate id second) :
    first = second := by
  induction one with
  | met =>
      cases other with
      | met => rfl
      | bottom away _ => exact absurd rfl away
      | step away _ _ => exact absurd rfl away
  | bottom away loose =>
      cases other with
      | met => exact absurd rfl away
      | bottom _ _ => rfl
      | step _ link _ =>
          rw [loose] at link
          cases link
  | step away link _ ih =>
      cases other with
      | met => exact absurd rfl away
      | bottom _ loose =>
          rw [link] at loose
          cases loose
      | step _ link' rest =>
          obtain rfl := Option.some.inj (link.symm.trans link')
          exact ih rest

/-- A reading has one outcome at each position. -/
theorem Reads.unique {window : Window} {first second : Int → Int → Except CanvasError Color}
    (one : c.Reads window first) (other : c.Reads window second) : first = second := by
  induction one generalizing second with
  | @layered window outcome _ ih =>
      cases other with
      | layered outcome' above' =>
          apply readOver_congr
          intro entry member
          cases named : entry.node with
          | source number source => rfl
          | window id =>
              have registered : Child.window id ∈ window.children :=
                List.mem_map.mpr ⟨entry, member, by rw [named, Node.child]⟩
              cases found : c.find? id with
              | none =>
                  rw [layerBy, layerBy, Compositor.window, found]
                  rfl
              | some child =>
                  have same := ih id child registered found (above' id child registered found)
                  rw [layerBy, layerBy, same]

/-! ## The bounds are never met -/

/-- There are not more windows below a window than slots, whether or not its handle is
stale. -/
theorem Linked.depth_le_size (linked : c.Linked) (id : WindowId) : c.depth id ≤ c.slots.size := by
  by_cases alive : c.isAlive id = true
  · exact Nat.le_of_lt (linked.depth_lt_size alive)
  · have none_below : {below | Relation.TransGen c.LiesOn id below} = ∅ := by
      rw [Set.eq_empty_iff_forall_notMem]
      intro below way
      obtain ⟨next, link, -⟩ := Relation.TransGen.head'_iff.mp way
      exact alive (isAlive_of_parent? link)
    rw [depth, none_below, Set.ncard_empty]
    exact Nat.zero_le _

/-- A walk with a step for each window below ends before the steps are used up. -/
theorem Linked.walkEnds_walkMeets (linked : c.Linked) (candidate : WindowId) {steps : Nat}
    {id : WindowId} (enough : c.depth id ≤ steps) :
    c.WalkEnds candidate id (c.walkMeets candidate steps id) := by
  induction steps generalizing id with
  | zero =>
      by_cases here : id = candidate
      · subst here
        simpa [walkMeets] using WalkEnds.met
      · have loose : c.parent? id = none := by
          cases link : c.parent? id with
          | none => rfl
          | some below =>
              have falls := linked.depth_lt_depth link
              omega
        simpa [walkMeets, here] using WalkEnds.bottom here loose
  | succ steps ih =>
      rw [walkMeets]
      by_cases here : id = candidate
      · subst here
        rw [if_pos rfl]
        exact .met
      · rw [if_neg here]
        cases link : c.parent? id with
        | none =>
            rw [show (c.find? id).bind (·.parent) = none from link]
            exact .bottom here link
        | some below =>
            rw [show (c.find? id).bind (·.parent) = some below from link]
            have falls := linked.depth_lt_depth link
            exact .step here link (ih (by omega))

/-- **The reading of a window comes to an end**, with the outcomes that the bounded
reading has. -/
theorem Linked.reads_read (linked : c.Linked) {id : WindowId} {window : Window}
    (found : c.find? id = some window) : c.Reads window (c.read window) := by
  induction id, window, found using linked.induction_above with
  | step id window found ih =>
      have same : c.read window = readOver (c.layerBy c.pixel) window := by
        rw [linked.read_eq found]
        apply readOver_congr
        intro entry member
        cases named : entry.node with
        | source number source => rfl
        | window above =>
            obtain ⟨child, foundChild, -, -⟩ := linked.exists_find?_of_mem found member named
            rw [layer, view_of_find? foundChild, layerBy, window_of_find? foundChild,
              pixel_of_find? foundChild]
            rfl
      rw [same]
      refine .layered c.pixel fun above child registered foundChild => ?_
      have link := (linked.mem_children_iff found above).mp registered
      rw [pixel_of_find? foundChild]
      exact ih above child foundChild link

/-! ## What a reading comes to -/

/-- No look-up and no read goes wrong that is made for the picture of a window. -/
structure Unfailing (c : Compositor) (window : Window) : Prop where
  /-- What stands in the registry can be looked up, and every read of it that is made, at a
  cell that it covers, succeeds. -/
  layer_ok : ∀ entry ∈ window.entries, ∃ layer, c.layer entry.node = .ok layer ∧
    ∀ x y : Int, 0 ≤ x - entry.x → x - entry.x < layer.width → 0 ≤ y - entry.y →
      y - entry.y < layer.height →
      ∃ color, layer.pixel (coordinate (x - entry.x)) (coordinate (y - entry.y)) = .ok color
  /-- Each cell of the window's own picture has its place in the memory. -/
  place_lt : ∀ column row, column < window.buffer.width → row < window.buffer.height →
    window.buffer.orientation.index column row < window.buffer.memory.size

theorem Linked.unfailing (linked : c.Linked) {id : WindowId} {window : Window}
    (found : c.find? id = some window) (legible : c.Legible id) : c.Unfailing window where
  layer_ok entry member := by
    obtain ⟨layer, layered, readable⟩ := linked.layers_readable found legible entry member
    exact ⟨layer, layered, fun x y left right above below =>
      ⟨_, readable.pixel_coordinate left right above below⟩⟩
  place_lt column row hx hy := by
    rw [window.buffer.size_memory]
    exact window.buffer.orientation.index_lt hx hy

/-- Outside a window the report names the window's own size. -/
theorem Linked.read_of_outside (linked : c.Linked) {id : WindowId} {window : Window}
    (found : c.find? id = some window) {x y : Int}
    (outside : ¬ (0 ≤ x ∧ x < window.buffer.width ∧ 0 ≤ y ∧ y < window.buffer.height)) :
    c.read window x y =
      .error (.outOfRange x y window.buffer.width window.buffer.height) := by
  rw [linked.read_eq found, readOver, cellAt, if_neg outside]
  rfl

/-- At its cells a legible window has a colour. -/
theorem Linked.read_of_inside (linked : c.Linked) {id : WindowId} {window : Window}
    (found : c.find? id = some window) (legible : c.Legible id) {x y : Int}
    (inside : 0 ≤ x ∧ x < window.buffer.width ∧ 0 ≤ y ∧ y < window.buffer.height) :
    ∃ color, c.read window x y = .ok color := by
  obtain ⟨left, right, above, below⟩ := inside
  obtain ⟨column, rfl⟩ := Int.eq_ofNat_of_zero_le left
  obtain ⟨row, rfl⟩ := Int.eq_ofNat_of_zero_le above
  exact ⟨_, linked.read_of_layers found (linked.layers_readable found legible)
    (Int.ofNat_lt.mp right) (Int.ofNat_lt.mp below)⟩

/-- **Walks and reads end, and reads are total.** In a reachable compositor every walk
along the links ends with the answer that is given to callers, and every reading of a
window ends, in one way only. A window that fits, with everything that lies on it, has
a colour at exactly its own cells, read directly or through a view; anywhere else the
report names the position and the window's own size. Neither at the window nor at any
window on it, however deep, can a look-up, a read or a place in memory be missing,
wherever the windows lie and however they are turned. -/
theorem pixel_total (reachable : c.Reachable) :
    (∀ candidate id answer,
      c.WalkEnds candidate id answer ↔ answer = c.isAncestorOrSelf candidate id) ∧
    (∀ id window, c.find? id = some window →
      ∀ outcome, c.Reads window outcome ↔ outcome = c.pixel id) ∧
    ∀ id window, c.find? id = some window → c.Legible id →
      (∀ x y : Int,
        ((∃ color, c.pixel id x y = .ok color) ↔
          0 ≤ x ∧ x < window.buffer.width ∧ 0 ≤ y ∧ y < window.buffer.height) ∧
        (¬ (0 ≤ x ∧ x < window.buffer.width ∧ 0 ≤ y ∧ y < window.buffer.height) →
          c.pixel id x y = .error (.outOfRange x y window.buffer.width window.buffer.height)) ∧
        ∃ view, c.view id = .ok view ∧ view.pixel x y = c.pixel id x y) ∧
      ∀ above lying, Relation.ReflTransGen c.LiesOn above id → c.find? above = some lying →
        c.Unfailing lying := by
  have linked := reachable.sound.linked
  refine ⟨fun candidate id answer => ?_, fun id window found outcome => ?_,
    fun id window found legible => ⟨fun x y => ?_, ?_⟩⟩
  · have ends : c.WalkEnds candidate id (c.isAncestorOrSelf candidate id) :=
      linked.walkEnds_walkMeets candidate (linked.depth_le_size id)
    constructor
    · intro other
      exact other.unique ends
    · rintro rfl
      exact ends
  · have ends : c.Reads window (c.pixel id) := by
      rw [pixel_of_find? found]
      exact linked.reads_read found
    constructor
    · intro other
      exact other.unique ends
    · rintro rfl
      exact ends
  · rw [pixel_of_find? found]
    refine ⟨⟨fun answered => ?_, linked.read_of_inside found legible⟩,
      linked.read_of_outside found, window.source (c.read window), view_of_find? found, rfl⟩
    by_contra outside
    obtain ⟨color, answered⟩ := answered
    rw [linked.read_of_outside found outside] at answered
    cases answered
  · intro above lying way foundAbove
    exact linked.unfailing foundAbove fun other further up => legible other further (up.trans way)

/-- Three windows on each other. The one in the middle is turned and hangs over the left
edge; the topmost one lies as far away as it can. -/
def overhang : Compositor :=
  run [.createWindow 3 2, .createChild ⟨0, 0⟩ (-1) 0 2 3,
    .createChild ⟨1, 0⟩ 2147483647 (-2147483648) 1 1,
    .paint ⟨1, 0⟩ (Pixmap.perform (.rotate 90 Flip.none))]

theorem pixel_total_overhang :
    overhang.Reachable ∧
      overhang.find? ⟨0, 0⟩ =
        some { buffer := Pixmap.blank 3 2, entries := [⟨.window ⟨1, 0⟩, -1, 0⟩] } ∧
      overhang.Legible ⟨0, 0⟩ ∧
      overhang.WalkEnds ⟨0, 0⟩ ⟨2, 0⟩ true ∧
      (∃ color, overhang.pixel ⟨0, 0⟩ 0 1 = .ok color) ∧
      overhang.pixel ⟨0, 0⟩ 3 1 = .error (.outOfRange 3 1 3 2) := by
  have reachable : overhang.Reachable := ⟨_, rfl⟩
  have found : overhang.find? ⟨0, 0⟩ =
      some { buffer := Pixmap.blank 3 2, entries := [⟨.window ⟨1, 0⟩, -1, 0⟩] } := rfl
  have alive : overhang.live = [⟨0, 0⟩, ⟨1, 0⟩, ⟨2, 0⟩] := by decide
  have legible : overhang.Legible ⟨0, 0⟩ := by
    intro above window _ foundAbove
    have listed := mem_live.mpr (isAlive_of_find? foundAbove)
    rw [alive, List.mem_cons, List.mem_cons, List.mem_singleton] at listed
    rcases listed with rfl | rfl | rfl <;> obtain rfl := Option.some.inj foundAbove
    · exact ⟨by decide, by decide, fun entry member number source named => by
        rw [List.mem_singleton.mp member] at named
        cases named⟩
    · exact ⟨by decide, by decide, fun entry member number source named => by
        rw [List.mem_singleton.mp member] at named
        cases named⟩
    · exact ⟨by decide, by decide, fun entry member => nomatch member⟩
  obtain ⟨walks, -, total⟩ := pixel_total reachable
  obtain ⟨pixels, -⟩ := total ⟨0, 0⟩ _ found legible
  exact ⟨reachable, found, legible, (walks ⟨0, 0⟩ ⟨2, 0⟩ true).mpr (by decide),
    (pixels 0 1).1.mpr (by decide), (pixels 3 1).2.1 (by decide)⟩

end LedMatrix.Compositor
