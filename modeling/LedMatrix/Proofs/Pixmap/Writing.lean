/-
# What is written is read

Writing a cell changes one place of the memory. Turning the picture changes no place, only the way
from the cells to the places, so a colour that has been written is read at the one cell that has
come to lie at its place, and all other cells show what their own places hold.

`write_then_turn` says so of every picture that can be made from a black one, and of any turns
after the writing, among them some that are refused. The bounds that a cell is checked against
change with each turn that exchanges width and height; the size of the memory does not.
-/

import LedMatrix.Proofs.Pixmap.Placement
import LedMatrix.Proofs.Pixmap.Wiring

namespace LedMatrix

namespace Orientation

/-- Where requests to turn lead, each of them a degree with mirrors. One that is refused leads
nowhere. -/
def afterTurns (o : Orientation) (turns : List (Int × Flip)) : Orientation :=
  turns.foldl (fun o turn =>
    match o.setRotation turn.1 turn.2 with
    | .ok turned => turned
    | .error _ => o) o

/-- A request to turn is refused exactly if there is no such turn. -/
theorem setRotation_eq (o : Orientation) (degree : Int) (flip : Flip) :
    o.setRotation degree flip = (Rotation.ofDegrees degree).map (o.withRotation · flip) := by
  unfold setRotation
  cases Rotation.ofDegrees degree <;> rfl

/-- Two orientations of one grid give a cell the same place exactly if they show it in the same
physical cell. -/
theorem index_eq_index_iff {o o' : Orientation} (grid : SameGrid o o') {x y x' y' : Nat}
    (hx : x < o.width) (hy : y < o.height) (hx' : x' < o'.width) (hy' : y' < o'.height) :
    o'.index x' y' = o.index x y ↔ o'.physical x' y' = o.physical x y := by
  have physical := (o'.physical_lt hx' hy').1
  rw [grid.physicalWidth] at physical
  have shown := o.place_eq_index_iff (o'.physical x' y').2 hx hy physical
  rwa [← grid.layout, ← grid.physicalWidth] at shown

end Orientation

namespace Pixmap

variable {p q r : Pixmap}

/-! ## Reading and writing a cell -/

/-- A position at which there is a cell. -/
def Covers (p : Pixmap) (x y : Int) : Prop := 0 ≤ x ∧ x < p.width ∧ 0 ≤ y ∧ y < p.height

instance (p : Pixmap) (x y : Int) : Decidable (p.Covers x y) :=
  inferInstanceAs (Decidable (_ ∧ _))

/-- A position without a cell is neither read nor written, and nothing is changed. -/
theorem pixel_of_not_covers {x y : Int} (outside : ¬ p.Covers x y) (color : Color) :
    p.pixel x y = .error (.outOfRange x y p.width p.height) ∧
      setPixel x y color p = .error (.outOfRange x y p.width p.height) p := by
  have missing : cellAt x y p.width p.height = .error (.outOfRange x y p.width p.height) :=
    if_neg outside
  constructor
  · rw [pixel, missing]
    rfl
  · rw [setPixel_eq, missing]

theorem setPixel_of_lt {x y : Nat} (hx : x < p.width) (hy : y < p.height) (color : Color) :
    setPixel x y color p = .ok () (p.recolor x y color) := by
  rw [setPixel_eq, cellAt_of_lt hx hy]

/-- Exactly the cells of a picture can be read and written. -/
theorem access_iff_covers (p : Pixmap) (x y : Int) (color : Color) :
    ((∃ old, p.pixel x y = .ok old) ↔ p.Covers x y) ∧
      ((∃ q, setPixel x y color p = .ok () q) ↔ p.Covers x y) := by
  by_cases inside : p.Covers x y
  · have ⟨left, right, above, below⟩ := inside
    obtain ⟨column, rfl⟩ := Int.eq_ofNat_of_zero_le left
    obtain ⟨row, rfl⟩ := Int.eq_ofNat_of_zero_le above
    have hx : column < p.width := Int.ofNat_lt.mp right
    have hy : row < p.height := Int.ofNat_lt.mp below
    exact ⟨iff_of_true ⟨_, p.pixel_of_lt hx hy⟩ inside,
      iff_of_true ⟨_, setPixel_of_lt hx hy color⟩ inside⟩
  · obtain ⟨unread, unwritten⟩ := pixel_of_not_covers inside color
    rw [unread, unwritten]
    exact ⟨iff_of_false nofun inside, iff_of_false nofun inside⟩

/-- A cell that is read shows what its place holds. -/
theorem exists_getElem?_index (p : Pixmap) {x y : Nat} (hx : x < p.width) (hy : y < p.height) :
    ∃ color, p.memory[p.orientation.index x y]? = some color ∧ p.pixel x y = .ok color := by
  have place : p.orientation.index x y < p.memory.size := by
    rw [p.size_memory]
    exact p.orientation.index_lt hx hy
  refine ⟨_, Array.getElem?_eq_getElem place, ?_⟩
  rw [p.pixel_of_lt hx hy, colorAt, Array.getD_eq_getD_getElem?, Array.getElem?_eq_getElem place,
    Option.getD_some]

/-- The picture `q` is the picture `p` with one place of the memory recoloured. -/
structure IsRecolored (p q : Pixmap) (place : Nat) (color : Color) : Prop where
  frame : SameFrame p q
  place_lt : place < p.memory.size
  here : q.memory[place]? = some color
  elsewhere : ∀ other, other ≠ place → q.memory[other]? = p.memory[other]?

/-- Recolouring a cell recolours its place and no other. -/
theorem isRecolored_recolor (p : Pixmap) {x y : Nat} (hx : x < p.width) (hy : y < p.height)
    (color : Color) : IsRecolored p (p.recolor x y color) (p.orientation.index x y) color := by
  have place : p.orientation.index x y < p.memory.size := by
    rw [p.size_memory]
    exact p.orientation.index_lt hx hy
  exact ⟨⟨rfl, rfl, rfl⟩, place, Array.getElem?_setIfInBounds_self_of_lt place,
    fun other distinct => Array.getElem?_setIfInBounds_ne distinct.symm⟩

/-! ## Turning -/

/-- Requests to turn a picture, one after the other. -/
def turnAll (turns : List (Int × Flip)) (p : Pixmap) : Pixmap :=
  Edit.afterAll (turns.map fun turn => perform (.rotate turn.1 turn.2)) p

/-- Turns change nothing but the orientation, and of that nothing but the turn and the mirrors. -/
structure IsTurned (p r : Pixmap) : Prop where
  grid : Orientation.SameGrid p.orientation r.orientation
  memory : r.memory = p.memory
  background : r.background = p.background
  transparent : r.transparent = p.transparent

theorem IsTurned.trans (first : IsTurned p q) (second : IsTurned q r) : IsTurned p r :=
  ⟨first.grid.trans second.grid, second.memory.trans first.memory,
    second.background.trans first.background, second.transparent.trans first.transparent⟩

/-- One request to turn does what it does to the orientation. -/
theorem turn_step (p : Pixmap) (turn : Int × Flip) :
    IsTurned p ((perform (.rotate turn.1 turn.2)).after p) ∧
      ((perform (.rotate turn.1 turn.2)).after p).orientation = p.orientation.afterTurns [turn] := by
  rw [Edit.after, perform, setRotation_eq, Orientation.afterTurns, List.foldl_cons, List.foldl_nil,
    Orientation.setRotation_eq]
  cases Rotation.ofDegrees turn.1 with
  | ok rotation => exact ⟨⟨⟨rfl, rfl, rfl⟩, rfl, rfl, rfl⟩, rfl⟩
  | error cause => exact ⟨⟨.of_eq rfl, rfl, rfl, rfl⟩, rfl⟩

/-- Any number of requests to turn do what they do to the orientation. -/
theorem turnAll_eq (turns : List (Int × Flip)) (p : Pixmap) :
    IsTurned p (turnAll turns p) ∧
      (turnAll turns p).orientation = p.orientation.afterTurns turns := by
  induction turns generalizing p with
  | nil => exact ⟨⟨.of_eq rfl, rfl, rfl, rfl⟩, rfl⟩
  | cons turn rest ih =>
      obtain ⟨first, one⟩ := turn_step p turn
      obtain ⟨later, all⟩ := ih ((perform (.rotate turn.1 turn.2)).after p)
      refine ⟨first.trans later, all.trans ?_⟩
      rw [one]
      rfl

/-- In the picture `r` the colour that has been written into cell `(x, y)` of `p` is read at `cell`,
and nowhere else: any other cell has a place of its own, and shows what was there before. -/
structure ReadsBack (p r : Pixmap) (x y : Nat) (color : Color) (cell : Nat × Nat) : Prop where
  column_lt : cell.1 < r.width
  row_lt : cell.2 < r.height
  physical : r.orientation.physical cell.1 cell.2 = p.orientation.physical x y
  pixel : r.pixel cell.1 cell.2 = .ok color
  others : ∀ other : Nat × Nat, other.1 < r.width → other.2 < r.height → other ≠ cell →
    r.orientation.physical other.1 other.2 ≠ p.orientation.physical x y ∧
    r.orientation.index other.1 other.2 ≠ p.orientation.index x y ∧
    ∃ kept, p.memory[r.orientation.index other.1 other.2]? = some kept ∧
      r.pixel other.1 other.2 = .ok kept

/-- **What is written is read**, however the picture has been turned in between. -/
theorem IsRecolored.readsBack {x y : Nat} {color : Color} (hx : x < p.width) (hy : y < p.height)
    (written : IsRecolored p q (p.orientation.index x y) color) (turned : IsTurned q r) :
    ∃ cell, ReadsBack p r x y color cell := by
  have grid : Orientation.SameGrid p.orientation r.orientation :=
    (Orientation.SameGrid.of_eq written.frame.orientation).trans turned.grid
  -- The cell is the one that shows the physical cell that has been written.
  have inside := p.orientation.physical_lt hx hy
  rw [← grid.physicalWidth, ← grid.physicalHeight] at inside
  have cell := r.orientation.logical_lt inside.1 inside.2
  have physical := r.orientation.physical_logical inside.1 inside.2
  have place := (Orientation.index_eq_index_iff grid hx hy cell.1 cell.2).mpr physical
  refine ⟨_, cell.1, cell.2, physical, ?_, fun other hx' hy' distinct => ?_⟩
  · obtain ⟨found, held, read⟩ := r.exists_getElem?_index cell.1 cell.2
    rw [turned.memory, place, written.here] at held
    obtain rfl := Option.some.inj held
    exact read
  · have elsewhere : r.orientation.physical other.1 other.2 ≠ p.orientation.physical x y := by
      intro same
      apply distinct
      have back := r.orientation.logical_physical hx' hy'
      rw [same] at back
      exact back.symm
    have apart := mt (Orientation.index_eq_index_iff grid hx hy hx' hy').mp elsewhere
    refine ⟨elsewhere, apart, ?_⟩
    obtain ⟨kept, held, read⟩ := r.exists_getElem?_index hx' hy'
    rw [turned.memory, written.elsewhere _ apart] at held
    exact ⟨kept, held, read⟩

/-- No request changes the wiring or the physical size, nor does a run of them. -/
theorem sameGrid_afterAll (actions : List Action) (p : Pixmap) :
    Orientation.SameGrid p.orientation
      (Edit.afterAll (actions.map perform) p).orientation := by
  refine Edit.afterAll_keeps
    (motive := fun left : Pixmap => Orientation.SameGrid p.orientation left.orientation)
    (fun edit member state kept => ?_) (.of_eq rfl)
  obtain ⟨action, -, rfl⟩ := List.mem_map.mp member
  exact kept.trans (sameGrid_perform action state)

/-- **A picture keeps what is written into it.** Start with a black picture of a size that fits, with
either wiring, and make any requests of it, which may fail. Its memory and its physical size are
what they were. Exactly the positions inside its logical size can be read and written; at any other
position the report names this size, and nothing is changed. The place of a cell can always be
worked out and lies inside the memory. Writing a cell changes this place alone; and after any
further requests to turn, of which those that are refused lead nowhere, the colour is read at
exactly one cell, the one that shows the same physical cell, while every other cell shows what its
own place held before. -/
theorem write_then_turn {width height : Nat} (width_lt : width < lengthLimit)
    (height_lt : height < lengthLimit) (layout : Layout) (actions : List Action) :
    let p := Edit.afterAll (actions.map perform) (blank width height layout)
    p.memory.size = width * height ∧ p.orientation.layout = layout ∧
    p.orientation.physicalWidth = width ∧ p.orientation.physicalHeight = height ∧
    (∀ (x y : Int) (color : Color),
      ((∃ old, p.pixel x y = .ok old) ↔ p.Covers x y) ∧
      ((∃ q, setPixel x y color p = .ok () q) ↔ p.Covers x y) ∧
      (¬ p.Covers x y →
        p.pixel x y = .error (.outOfRange x y p.width p.height) ∧
        setPixel x y color p = .error (.outOfRange x y p.width p.height) p)) ∧
    ∀ x y : Nat, x < p.width → y < p.height → ∃ place old,
      p.orientation.checkedPlace? x y = some place ∧ p.memory[place]? = some old ∧
      p.pixel x y = .ok old ∧
      ∀ color, ∃ q, setPixel x y color p = .ok () q ∧ IsRecolored p q place color ∧
        ∀ turns, (turnAll turns q).memory = q.memory ∧
          (turnAll turns q).orientation = p.orientation.afterTurns turns ∧
          ∃ cell, ReadsBack p (turnAll turns q) x y color cell := by
  intro p
  have grid : Orientation.SameGrid (blank width height layout).orientation p.orientation :=
    sameGrid_afterAll actions (blank width height layout)
  have area : p.orientation.area = width * height := by
    rw [Orientation.area, grid.physicalWidth, grid.physicalHeight]
    rfl
  have reach : p.orientation.area ≤ Layout.placeLimit := by
    rw [area]
    exact Nat.le_of_lt ((Nat.mul_lt_mul'' width_lt height_lt).trans (by decide))
  refine ⟨p.size_memory.trans area, grid.layout, grid.physicalWidth, grid.physicalHeight,
    fun x y color => ?_, fun x y hx hy => ?_⟩
  · obtain ⟨read, written⟩ := p.access_iff_covers x y color
    exact ⟨read, written, fun outside => pixel_of_not_covers outside color⟩
  · obtain ⟨old, held, read⟩ := p.exists_getElem?_index hx hy
    have place : p.orientation.checkedPlace? x y = some (p.orientation.index x y) := by
      rw [p.orientation.checkedPlace?_eq_place?, p.orientation.place?_eq_index hx hy reach]
    refine ⟨p.orientation.index x y, old, place, held, read, fun color => ?_⟩
    have written := p.isRecolored_recolor hx hy color
    refine ⟨p.recolor x y color, setPixel_of_lt hx hy color, written, fun turns => ?_⟩
    obtain ⟨turned, orientation⟩ := turnAll_eq turns (p.recolor x y color)
    exact ⟨turned.memory, orientation, written.readsBack hx hy turned⟩

/-- A snaking panel of three columns and two rows hangs on its side when its upper right cell is
written. After it has been turned back, and a turn by half a right angle refused, the colour is read
in the lower right corner. -/
theorem write_then_turn_three_by_two :
    3 < lengthLimit ∧ 2 < lengthLimit ∧
    let p := Edit.afterAll ([.fill .pureRed, .rotate 90 Flip.none].map perform)
      (blank 3 2 .serpentine)
    p.width = 2 ∧ p.height = 3 ∧ p.pixel 2 0 = .error (.outOfRange 2 0 2 3) ∧
    ∃ q, setPixel 1 2 .white p = .ok () q ∧ IsRecolored p q 2 .white ∧
      ReadsBack p (turnAll [(0, { y := true }), (45, Flip.none)] q) 1 2 .white (2, 1) := by
  have width_lt : 3 < lengthLimit := by decide
  have height_lt : 2 < lengthLimit := by decide
  obtain ⟨-, -, -, -, access, cells⟩ := write_then_turn width_lt height_lt .serpentine
    [.fill .pureRed, .rotate 90 Flip.none]
  obtain ⟨place, old, placed, -, -, writes⟩ := cells 1 2 (by decide) (by decide)
  obtain rfl : 2 = place := Option.some.inj placed
  obtain ⟨q, written, recolored, turned⟩ := writes .white
  obtain ⟨-, orientation, cell, back⟩ := turned [(0, { y := true }), (45, Flip.none)]
  refine ⟨width_lt, height_lt, by decide, by decide, ?_, q, written, recolored, ?_⟩
  · exact ((access 2 0 .white).2.2 (by decide)).1
  · have corner : cell = (2, 1) := by
      by_contra other
      have inside : 2 < (turnAll [(0, { y := true }), (45, Flip.none)] q).width ∧
          1 < (turnAll [(0, { y := true }), (45, Flip.none)] q).height := by
        rw [Pixmap.width, Pixmap.height, orientation]
        decide
      apply (back.others (2, 1) inside.1 inside.2 (Ne.symm other)).1
      rw [orientation]
      decide
    rwa [← corner]

end Pixmap

end LedMatrix
