/-
# Readable sources

A source promises nothing: it may claim a size that its cells do not fill, and
lengths are exchanged as machine numbers, so a claim can be too long to be taken
at its word. `Source.Readable` collects what a well-behaved source keeps to:
sides that fit into a signed number of 32 bits, and a colour for each cell. For
such a source the machine numbers can be forgotten (`coordinate_of_lt`,
`covered_of_lt`) and reading becomes a total function of the cell.

Going through the cells of any other source can come to a stop. In row-major order
(`Before`) it does so at the first of the cells asked for that cannot be read
(`Source.FirstFailure`).

`Source.seenAt` says what a source laid at some corner shows at a cell of the
canvas, without going through the cells one after the other. Seen from the canvas
this is a matter of at most one cell of the source, the one that lands there
(`Source.LandsAt`).
-/

import LedMatrix.Orientation
import LedMatrix.Source

namespace LedMatrix

/-- Lengths below this number fit into a signed number of 32 bits. -/
def lengthLimit : Nat := 0x80000000

theorem coordinate_of_lt {position : Nat} (fits : position < lengthLimit) :
    coordinate position = position := by
  unfold lengthLimit at fits
  unfold coordinate
  rw [Int.bmod_eq_of_le] <;> omega

theorem covered_of_lt {length : Nat} (fits : length < lengthLimit) : covered length = length := by
  unfold lengthLimit at fits
  exact if_pos (by omega)

/-- A length of which any part is covered is covered wholly. -/
theorem covered_eq_of_lt {length position : Nat} (inside : position < covered length) :
    covered length = length := by
  unfold covered at inside ⊢
  split at inside
  · rename_i short
    exact if_pos short
  · exact absurd inside (Nat.not_lt_zero position)

theorem offset_lt {length position : Nat} (mirrored : Bool) (inside : position < length) :
    offset length mirrored position < length := by
  unfold offset
  split <;> omega

/-- Mirroring an axis twice leaves it alone. -/
theorem offset_offset {length position : Nat} (mirrored : Bool) (inside : position < length) :
    offset length mirrored (offset length mirrored position) = position := by
  unfold offset
  split <;> omega

/-- The cells of a canvas are the positions inside it. -/
theorem mem_cells {width height x y : Nat} :
    (x, y) ∈ cells width height ↔ x < width ∧ y < height := by
  simp only [cells, List.mem_map, List.mem_range, Prod.mk.injEq]
  constructor
  · rintro ⟨place, inside, rfl, rfl⟩
    have nonempty : 0 < width := Nat.pos_of_mul_pos_right (Nat.zero_lt_of_lt inside)
    exact ⟨Nat.mod_lt place nonempty, Nat.div_lt_of_lt_mul inside⟩
  · rintro ⟨hx, hy⟩
    have rows : (y + 1) * width ≤ height * width := Nat.mul_le_mul_right width hy
    refine ⟨x + width * y, ?_, ?_, ?_⟩
    · rw [Nat.add_one_mul, Nat.mul_comm y, Nat.mul_comm height] at rows
      omega
    · rw [Nat.add_mul_mod_self_left, Nat.mod_eq_of_lt hx]
    · rw [Nat.add_mul_div_left _ _ (Nat.zero_lt_of_lt hx), Nat.div_eq_of_lt hx, Nat.zero_add]

/-! ## Row-major order -/

/-- Row-major order of cells. -/
def Before (cell other : Nat × Nat) : Prop :=
  cell.2 < other.2 ∨ (cell.2 = other.2 ∧ cell.1 < other.1)

instance (cell other : Nat × Nat) : Decidable (Before cell other) :=
  inferInstanceAs (Decidable (_ ∨ _))

theorem Before.asymm {cell other : Nat × Nat} (before : Before cell other) :
    ¬ Before other cell := by
  unfold Before at *
  omega

/-- Of two cells one comes first. -/
theorem eq_of_not_before {cell other : Nat × Nat} (notBefore : ¬ Before cell other)
    (notAfter : ¬ Before other cell) : cell = other := by
  unfold Before at *
  exact Prod.ext (by omega) (by omega)

/-- The cells of a canvas are listed in row-major order. -/
theorem pairwise_cells (width height : Nat) : (cells width height).Pairwise Before := by
  refine List.pairwise_map.mpr (List.pairwise_lt_range.imp fun {place other} less => ?_)
  have rows : place / width ≤ other / width := Nat.div_le_div_right (Nat.le_of_lt less)
  rcases Nat.lt_or_eq_of_le rows with above | level
  · exact .inl above
  · -- In one row the columns are ordered like the places.
    refine .inr ⟨level, ?_⟩
    have first := Nat.div_add_mod place width
    have second := Nat.div_add_mod other width
    rw [level] at first
    dsimp only
    omega

/-- What is listed in row-major order is not listed twice. -/
theorem nodup_of_pairwise_before {listed : List (Nat × Nat)} (sorted : listed.Pairwise Before) :
    listed.Nodup := by
  refine sorted.imp fun before same => ?_
  subst same
  exact before.asymm before

/-- No cell is listed twice. -/
theorem nodup_cells (width height : Nat) : (cells width height).Nodup :=
  nodup_of_pairwise_before (pairwise_cells width height)

/-- In a list in row-major order the cells that come before a cell are listed before it. -/
theorem mem_earlier_iff {earlier later : List (Nat × Nat)} {cell : Nat × Nat}
    (sorted : (earlier ++ cell :: later).Pairwise Before) (other : Nat × Nat) :
    other ∈ earlier ↔ other ∈ earlier ++ cell :: later ∧ Before other cell := by
  obtain ⟨-, tail, across⟩ := List.pairwise_append.mp sorted
  obtain ⟨after, -⟩ := List.pairwise_cons.mp tail
  constructor
  · intro listed
    exact ⟨List.mem_append_left _ listed, across other listed cell List.mem_cons_self⟩
  · rintro ⟨listed, before⟩
    rcases List.mem_append.mp listed with first | last
    · exact first
    · rcases List.mem_cons.mp last with rfl | last
      · exact absurd before before.asymm
      · exact absurd before (after other last).asymm

namespace Source

/-- A source of a size that fits, all of whose cells can be read. -/
structure Readable (source : Source) : Prop where
  width_lt : source.width < lengthLimit
  height_lt : source.height < lengthLimit
  pixel_ok : ∀ x y : Nat, x < source.width → y < source.height →
    ∃ color, source.pixel x y = .ok color

/-- The colour of a cell that can be read, and black otherwise. -/
def colorAt (source : Source) (x y : Nat) : Color :=
  (source.pixel x y).toOption.getD .black

/-- A cell that can be read has its colour. -/
theorem pixel_eq_colorAt {source : Source} {x y : Nat}
    (read : ∃ color, source.pixel x y = .ok color) :
    source.pixel x y = .ok (source.colorAt x y) := by
  obtain ⟨color, found⟩ := read
  rw [colorAt, found]
  rfl

theorem Readable.pixel_eq {source : Source} (readable : source.Readable) {x y : Nat}
    (hx : x < source.width) (hy : y < source.height) :
    source.pixel x y = .ok (source.colorAt x y) :=
  pixel_eq_colorAt (readable.pixel_ok x y hx hy)

/-- A source of a size that fits is asked for its cells by their own coordinates. -/
theorem pixel_coordinate {source : Source} (width : source.width < lengthLimit)
    (height : source.height < lengthLimit) {x y : Nat} (hx : x < source.width)
    (hy : y < source.height) :
    source.pixel (coordinate x) (coordinate y) = source.pixel x y := by
  rw [coordinate_of_lt (Nat.lt_trans hx width), coordinate_of_lt (Nat.lt_trans hy height)]

/-- The given cells, read one after the other, come to one that cannot be read, with the given
report. -/
inductive FailsOn (source : Source) (cause : CanvasError) : List (Nat × Nat) → Prop
  | here {cell : Nat × Nat} {rest : List (Nat × Nat)}
      (failed : source.pixel cell.1 cell.2 = .error cause) : FailsOn source cause (cell :: rest)
  | later {cell : Nat × Nat} {rest : List (Nat × Nat)} {color : Color}
      (read : source.pixel cell.1 cell.2 = .ok color) (fails : FailsOn source cause rest) :
      FailsOn source cause (cell :: rest)

theorem FailsOn.exists_cell {source : Source} {cause : CanvasError} {cells : List (Nat × Nat)}
    (fails : source.FailsOn cause cells) :
    ∃ cell ∈ cells, source.pixel cell.1 cell.2 = .error cause := by
  induction fails with
  | here failed => exact ⟨_, List.mem_cons_self, failed⟩
  | later _ _ ih =>
      obtain ⟨cell, member, failed⟩ := ih
      exact ⟨cell, List.mem_cons_of_mem _ member, failed⟩

/-- Where one of the cells cannot be read, a first one is come to. -/
theorem exists_failsOn {source : Source} {cause : CanvasError} {cells : List (Nat × Nat)}
    {cell : Nat × Nat} (member : cell ∈ cells) (failed : source.pixel cell.1 cell.2 = .error cause) :
    ∃ first, source.FailsOn first cells := by
  induction cells with
  | nil => cases member
  | cons other rest ih =>
      cases read : source.pixel other.1 other.2 with
      | error first => exact ⟨first, .here read⟩
      | ok color =>
          rcases List.mem_cons.mp member with rfl | further
          · cases read.symm.trans failed
          · obtain ⟨first, fails⟩ := ih further
            exact ⟨first, .later read fails⟩

/-- A cell that cannot be read is come to after cells that can. -/
theorem failsOn_append {source : Source} {cause : CanvasError} {earlier later : List (Nat × Nat)}
    {cell : Nat × Nat} (read : ∀ other ∈ earlier, ∃ color, source.pixel other.1 other.2 = .ok color)
    (failed : source.pixel cell.1 cell.2 = .error cause) :
    source.FailsOn cause (earlier ++ cell :: later) := by
  induction earlier with
  | nil => exact .here failed
  | cons head rest ih =>
      obtain ⟨color, found⟩ := read head List.mem_cons_self
      exact .later found (ih fun other member => read other (List.mem_cons_of_mem head member))

/-- What is come to stands after cells that can be read. -/
theorem FailsOn.exists_append {source : Source} {cause : CanvasError} {listed : List (Nat × Nat)}
    (fails : source.FailsOn cause listed) :
    ∃ earlier cell later, listed = earlier ++ cell :: later ∧
      (∀ other ∈ earlier, ∃ color, source.pixel other.1 other.2 = .ok color) ∧
      source.pixel cell.1 cell.2 = .error cause := by
  induction fails with
  | here failed => exact ⟨[], _, _, rfl, List.forall_mem_nil _, failed⟩
  | @later head rest color read _ ih =>
      obtain ⟨earlier, cell, later, rfl, passed, failed⟩ := ih
      exact ⟨head :: earlier, cell, later, rfl, List.forall_mem_cons.mpr ⟨⟨color, read⟩, passed⟩,
        failed⟩

/-- The first of the cells asked for, in row-major order, that cannot be read. -/
structure FirstFailure (source : Source) (asked : Nat × Nat → Prop) (cause : CanvasError)
    (cell : Nat × Nat) : Prop where
  isAsked : asked cell
  failed : source.pixel cell.1 cell.2 = .error cause
  earlier : ∀ other, asked other → Before other cell →
    ∃ color, source.pixel other.1 other.2 = .ok color

section Sorted

variable {source : Source} {asked : Nat × Nat → Prop} {cause : CanvasError}
  {listed : List (Nat × Nat)} (sorted : listed.Pairwise Before)
  (lists : ∀ cell, cell ∈ listed ↔ asked cell)
include sorted lists

/-- Gone through in row-major order, the cells asked for before the first failure stand before it
and can be read. -/
theorem FirstFailure.exists_append {cell : Nat × Nat}
    (first : source.FirstFailure asked cause cell) :
    ∃ earlier later, listed = earlier ++ cell :: later ∧
      (∀ other, other ∈ earlier ↔ asked other ∧ Before other cell) ∧
      ∀ other ∈ earlier, ∃ color, source.pixel other.1 other.2 = .ok color := by
  obtain ⟨earlier, later, rfl⟩ := List.append_of_mem ((lists cell).mpr first.isAsked)
  have before (other : Nat × Nat) : other ∈ earlier ↔ asked other ∧ Before other cell := by
    rw [mem_earlier_iff sorted, lists]
  refine ⟨earlier, later, rfl, before, fun other member => ?_⟩
  obtain ⟨among, precedes⟩ := (before other).mp member
  exact first.earlier other among precedes

/-- Gone through in row-major order, the cells asked for come to the first of them that cannot be
read. -/
theorem failsOn_iff_exists_firstFailure :
    source.FailsOn cause listed ↔ ∃ cell, source.FirstFailure asked cause cell := by
  constructor
  · intro fails
    obtain ⟨earlier, cell, later, rfl, read, failed⟩ := fails.exists_append
    refine ⟨cell, (lists cell).mp ?_, failed, fun other among before => read other ?_⟩
    · exact List.mem_append_right _ List.mem_cons_self
    · exact (mem_earlier_iff sorted other).mpr ⟨(lists other).mpr among, before⟩
  · rintro ⟨cell, first⟩
    obtain ⟨earlier, later, rfl, -, read⟩ := first.exists_append sorted lists
    exact failsOn_append read first.failed

/-- Where some cell asked for cannot be read, there is a first. -/
theorem exists_firstFailure {cell : Nat × Nat} (among : asked cell)
    (failed : source.pixel cell.1 cell.2 = .error cause) :
    ∃ reported first, source.FirstFailure asked reported first := by
  obtain ⟨reported, fails⟩ := source.exists_failsOn ((lists cell).mpr among) failed
  exact ⟨reported, (failsOn_iff_exists_firstFailure sorted lists).mp fails⟩

end Sorted

/-- Two sources of one size that are read alike, also where there is nothing to read. -/
structure SamePicture (source other : Source) : Prop where
  width : other.width = source.width
  height : other.height = source.height
  pixel : ∀ x y : Int, other.pixel x y = source.pixel x y

/-- What a source laid at `(x, y)` shows at a cell of the canvas, if it reaches so
far. -/
def seenAt (source : Source) (x y : Int) (flip : Flip) (column row : Nat) : Option Color :=
  let across := column - x
  let down := row - y
  if 0 ≤ across ∧ across < source.width ∧ 0 ≤ down ∧ down < source.height then
    some (source.colorAt (offset source.width flip.x across.toNat)
      (offset source.height flip.y down.toNat))
  else none

theorem seenAt_none (source : Source) (x y : Int) (column row : Nat) :
    source.seenAt x y Flip.none column row =
      if 0 ≤ column - x ∧ column - x < source.width ∧ 0 ≤ row - y ∧ row - y < source.height then
        some (source.colorAt (column - x).toNat (row - y).toNat)
      else none := rfl

/-! ## Landing -/

/-- A cell of a source that is laid at `(x, y)` lands on a cell of the canvas. -/
structure LandsAt (source : Source) (x y : Int) (flip : Flip) (cell target : Nat × Nat) :
    Prop where
  column_lt : cell.1 < source.width
  row_lt : cell.2 < source.height
  column_eq : (target.1 : Int) = x + offset source.width flip.x cell.1
  row_eq : (target.2 : Int) = y + offset source.height flip.y cell.2

variable {source : Source} {x y : Int} {flip : Flip}

/-- No two cells land on the same one. -/
theorem LandsAt.unique {cell other target : Nat × Nat} (lands : source.LandsAt x y flip cell target)
    (lands' : source.LandsAt x y flip other target) : other = cell := by
  have columns : offset source.width flip.x other.1 = offset source.width flip.x cell.1 := by
    have := lands.column_eq
    have := lands'.column_eq
    omega
  have rows : offset source.height flip.y other.2 = offset source.height flip.y cell.2 := by
    have := lands.row_eq
    have := lands'.row_eq
    omega
  refine Prod.ext ?_ ?_
  · rw [← offset_offset flip.x lands'.column_lt, columns, offset_offset flip.x lands.column_lt]
  · rw [← offset_offset flip.y lands'.row_lt, rows, offset_offset flip.y lands.row_lt]

/-- What a source shows at a cell is the colour of the cell that lands there. -/
theorem LandsAt.seenAt_eq {cell target : Nat × Nat} (lands : source.LandsAt x y flip cell target) :
    source.seenAt x y flip target.1 target.2 = some (source.colorAt cell.1 cell.2) := by
  have across : (target.1 : Int) - x = offset source.width flip.x cell.1 := by
    have := lands.column_eq
    omega
  have down : (target.2 : Int) - y = offset source.height flip.y cell.2 := by
    have := lands.row_eq
    omega
  have column_lt := offset_lt flip.x lands.column_lt
  have row_lt := offset_lt flip.y lands.row_lt
  unfold seenAt
  simp only [across, down]
  rw [if_pos (by omega), Int.toNat_natCast, Int.toNat_natCast, offset_offset flip.x lands.column_lt,
    offset_offset flip.y lands.row_lt]

/-- Where a source shows something, one of its cells lands. -/
theorem exists_landsAt_of_seenAt {column row : Nat} {color : Color}
    (seen : source.seenAt x y flip column row = some color) :
    ∃ cell, source.LandsAt x y flip cell (column, row) := by
  simp only [seenAt] at seen
  split at seen
  · rename_i inside
    obtain ⟨left, right, above, below⟩ := inside
    obtain ⟨across, hacross⟩ := Int.eq_ofNat_of_zero_le left
    obtain ⟨down, hdown⟩ := Int.eq_ofNat_of_zero_le above
    have hx : across < source.width := by omega
    have hy : down < source.height := by omega
    refine ⟨(offset source.width flip.x across, offset source.height flip.y down),
      offset_lt flip.x hx, offset_lt flip.y hy, ?_, ?_⟩
    · rw [offset_offset flip.x hx]
      omega
    · rw [offset_offset flip.y hy]
      omega
  · cases seen

end Source

end LedMatrix
