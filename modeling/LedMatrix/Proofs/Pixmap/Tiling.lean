/-
# Painting in pieces

Something that is laid over a picture can be cut into pieces that are laid one after the other,
each at a corner of its own. `Pixmap.Tiles` says when the pieces make up the whole: what a piece
shows on the picture is what the whole shows there, and what the whole shows is shown by some
piece. A cell that the picture would not let through anyway need not be shown by any.

The pieces may overlap, and nothing is said about their order. In whatever order they are laid,
they leave behind what the whole leaves (`Pixmap.Tiles.forM_draw`).
-/

import LedMatrix.Proofs.Pixmap.Drawing

namespace LedMatrix

/-- A source with the corner at which it is laid. -/
structure Placed where
  source : Source
  x : Int
  y : Int

namespace Placed

/-- Lay the source over a picture. -/
def draw (piece : Placed) : Edit Pixmap Unit :=
  Pixmap.draw piece.source piece.x piece.y Flip.none

/-- What the source shows at a cell of the picture, if it reaches so far. -/
def seenAt (piece : Placed) (column row : Nat) : Option Color :=
  piece.source.seenAt piece.x piece.y Flip.none column row

/-- The cells of a placed source, counted from the corner, and what they show. -/
theorem seenAt_eq_some {piece : Placed} {column row : Nat} {color : Color} :
    piece.seenAt column row = some color ↔
      ∃ across down : Nat, (column : Int) = piece.x + across ∧ (row : Int) = piece.y + down ∧
        across < piece.source.width ∧ down < piece.source.height ∧
        piece.source.colorAt across down = color := by
  rw [seenAt, Source.seenAt_none]
  constructor
  · intro seen
    split at seen
    · next inside =>
        obtain ⟨left, right, above, below⟩ := inside
        exact ⟨_, _, by omega, by omega, by omega, by omega, Option.some.inj seen⟩
    · cases seen
  · rintro ⟨across, down, hx, hy, right, below, rfl⟩
    have across_eq : (column : Int) - piece.x = across := by omega
    have down_eq : (row : Int) - piece.y = down := by omega
    rw [across_eq, down_eq, if_pos (by omega), Int.toNat_natCast, Int.toNat_natCast]

end Placed

namespace Pixmap

/-- Layers that show the same wherever they show anything are one layer. -/
theorem foldl_under {p : Pixmap} {layers : List (Option Color)} {seen : Option Color}
    (agree : ∀ layer ∈ layers, layer = none ∨ layer = seen) (old : Color) :
    layers.foldl p.under old = if seen ∈ layers then p.under old seen else old := by
  induction layers generalizing old with
  | nil => rfl
  | cons layer rest ih =>
      obtain ⟨first, agree⟩ := List.forall_mem_cons.mp agree
      rw [List.foldl_cons, ih agree]
      rcases first with rfl | rfl
      · rw [under_none]
        cases seen with
        | none => simp
        | some color => simp
      · rw [if_pos List.mem_cons_self, p.under_under, ite_self]

/-- Pieces that can be read are laid one after the other. -/
theorem forM_draw_eq {pieces : List Placed} (readable : ∀ piece ∈ pieces, piece.source.Readable)
    (p : Pixmap) :
    ∃ q, pieces.forM Placed.draw p = .ok () q ∧ SameFrame p q ∧
      ∀ column row, column < p.width → row < p.height →
        q.colorAt column row =
          (pieces.map fun piece => piece.seenAt column row).foldl p.under
            (p.colorAt column row) := by
  induction pieces generalizing p with
  | nil => exact ⟨p, rfl, .refl p, fun _ _ _ _ => rfl⟩
  | cons piece rest ih =>
      obtain ⟨first, readable⟩ := List.forall_mem_cons.mp readable
      obtain ⟨middle, drawn, frame, colors⟩ := draw_eq first piece.x piece.y Flip.none p
      obtain ⟨q, ran, frame', colors'⟩ := ih readable middle
      refine ⟨q, ?_, frame.trans frame', fun column row hx hy => ?_⟩
      · exact (Edit.bind_of_ok drawn).trans ran
      · have under : middle.under = p.under := funext₂ frame.under_eq
        rw [colors' column row (by rwa [frame.width_eq]) (by rwa [frame.height_eq]),
          colors column row hx hy, under]
        rfl

/-- Pieces make up a whole on a picture. -/
structure Tiles (p : Pixmap) (pieces : List Placed) (whole : Placed) : Prop where
  readable : ∀ piece ∈ pieces, piece.source.Readable
  /-- A piece shows what the whole shows. -/
  part : ∀ piece ∈ pieces, ∀ column row, column < p.width → row < p.height → ∀ color,
    piece.seenAt column row = some color → whole.seenAt column row = some color
  /-- What the whole shows is shown by a piece, or the picture would not let it through. -/
  shown : ∀ column row, column < p.width → row < p.height → ∀ color,
    whole.seenAt column row = some color →
      (∃ piece ∈ pieces, piece.seenAt column row = some color) ∨
        (p.transparent = true ∧ color = p.background)

namespace Tiles

variable {p : Pixmap} {pieces : List Placed} {whole : Placed}

/-- The order of the pieces plays no part. -/
theorem perm (tiles : p.Tiles pieces whole) {order : List Placed} (reordered : order.Perm pieces) :
    p.Tiles order whole where
  readable piece member := tiles.readable piece (reordered.mem_iff.mp member)
  part piece member := tiles.part piece (reordered.mem_iff.mp member)
  shown column row hx hy color seen := by
    rcases tiles.shown column row hx hy color seen with ⟨piece, member, shows⟩ | through
    · exact .inl ⟨piece, reordered.mem_iff.mpr member, shows⟩
    · exact .inr through

/-- At each cell the pieces come to what the whole comes to. -/
theorem foldl_seenAt (tiles : p.Tiles pieces whole) {column row : Nat} (hx : column < p.width)
    (hy : row < p.height) (old : Color) :
    (pieces.map fun piece => piece.seenAt column row).foldl p.under old =
      p.under old (whole.seenAt column row) := by
  have agree : ∀ layer ∈ pieces.map fun piece => piece.seenAt column row,
      layer = none ∨ layer = whole.seenAt column row := by
    intro layer member
    obtain ⟨piece, listed, rfl⟩ := List.mem_map.mp member
    cases seen : piece.seenAt column row with
    | none => exact .inl rfl
    | some color => exact .inr (tiles.part piece listed column row hx hy color seen).symm
  rw [foldl_under agree]
  split
  · rfl
  · next missing =>
      cases seen : whole.seenAt column row with
      | none => rfl
      | some color =>
          rcases tiles.shown column row hx hy color seen with ⟨piece, listed, shows⟩ | through
          · exact absurd (List.mem_map.mpr ⟨piece, listed, shows.trans seen.symm⟩) missing
          · exact (if_pos through).symm

/-- **Laying the pieces is laying the whole**, in whatever order they come. -/
theorem forM_draw (tiles : p.Tiles pieces whole) (readable : whole.source.Readable)
    {order : List Placed} (reordered : order.Perm pieces) :
    order.forM Placed.draw p = whole.draw p := by
  have tiles' := tiles.perm reordered
  obtain ⟨q, ran, frame, colors⟩ := forM_draw_eq tiles'.readable p
  obtain ⟨q', drawn, frame', colors'⟩ := draw_eq readable whole.x whole.y Flip.none p
  have same : q = q' := by
    refine (frame'.symm.trans frame).eq_of_colorAt fun column row hx hy => ?_
    rw [frame'.width_eq] at hx
    rw [frame'.height_eq] at hy
    rw [colors column row hx hy, colors' column row hx hy, tiles'.foldl_seenAt hx hy]
    rfl
  rw [ran, same]
  exact drawn.symm

end Tiles

end Pixmap

end LedMatrix
