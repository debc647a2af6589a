/-
# Clearing cell by cell

A picture can be cleared by filling its memory, which does not ask where any cell lies. A device
that knows nothing but its cells is cleared by recolouring one after the other, each behind a check
of its bounds and by way of the orientation. `clearCells_eq_clear` says that the two leave the same
memory behind, for a picture of a size that fits and for everything that holds one.

The loops run over columns within rows. `Coats` is what each of them has done at any point, a set of
cells of one colour and nothing else, and `Holder.forM_coats` is the induction for both. That the
cells make up the whole memory is `Pixmap.SameFrame.eq_of_colorAt`.

What is painted over a cleared picture looks the same whether or not the picture is see-through
(`Pixmap.exists_draw_clear`).
-/

import LedMatrix.Compositor.Basic
import LedMatrix.Proofs.Pixmap.Drawing
import LedMatrix.Proofs.Pixmap.Wiring
import LedMatrix.Strip.Basic

namespace LedMatrix

/-- Something that holds a picture, which can be exchanged for another one. -/
structure Holder (τ : Type) where
  picture : τ → Pixmap
  replace : τ → Pixmap → τ
  picture_replace : ∀ whole p, picture (replace whole p) = p
  replace_picture : ∀ whole, replace whole (picture whole) = whole
  replace_replace : ∀ whole p q, replace (replace whole p) q = replace whole q

/-- A strip holds the picture that it shows. -/
def Strip.holder (δ : Type) : Holder (Strip δ) where
  picture := Strip.picture
  replace strip picture := { strip with picture }
  picture_replace _ _ := rfl
  replace_picture _ := rfl
  replace_replace _ _ _ := rfl

/-- A window holds its own picture. -/
def Window.holder : Holder Window where
  picture := Window.buffer
  replace window buffer := { window with buffer }
  picture_replace _ _ := rfl
  replace_picture _ := rfl
  replace_replace _ _ _ := rfl

namespace Holder

variable {τ : Type} (holder : Holder τ)

/-- Paint on the picture that is held. -/
def paint {α : Type} (edit : Edit Pixmap α) : Edit τ α :=
  Edit.within holder.picture holder.replace edit

/-- What holds a picture is painted on by painting on the picture. -/
def device : Device τ where
  width whole := (holder.picture whole).width
  height whole := (holder.picture whole).height
  background whole := (holder.picture whole).background
  setPixel x y color := holder.paint (Pixmap.setPixel x y color)

theorem paint_of_ok {α : Type} {edit : Edit Pixmap α} {whole : τ} {answer : α} {left : Pixmap}
    (ran : edit (holder.picture whole) = .ok answer left) :
    holder.paint edit whole = .ok answer (holder.replace whole left) := by
  rw [paint, Edit.within, ran]

end Holder

/-! ## Areas of one colour -/

namespace Pixmap

/-- The picture `q` is the picture `p` with the cells of an area given one colour. -/
structure Coats (area : Nat → Nat → Prop) (color : Color) (p q : Pixmap) : Prop where
  frame : SameFrame p q
  coated : ∀ x y, x < p.width → y < p.height → area x y → q.colorAt x y = color
  bare : ∀ x y, x < p.width → y < p.height → ¬ area x y → q.colorAt x y = p.colorAt x y

namespace Coats

variable {area other : Nat → Nat → Prop} {color : Color} {p q r : Pixmap}

theorem nothing (empty : ∀ x y, ¬ area x y) : Coats area color p p where
  frame := .refl p
  coated x y _ _ member := absurd member (empty x y)
  bare _ _ _ _ _ := rfl

/-- One coat and then another one. -/
theorem trans (first : Coats area color p q) (second : Coats other color q r) :
    Coats (fun x y => area x y ∨ other x y) color p r where
  frame := first.frame.trans second.frame
  coated x y hx hy member := by
    have hx' : x < q.width := by rwa [first.frame.width_eq]
    have hy' : y < q.height := by rwa [first.frame.height_eq]
    by_cases again : other x y
    · exact second.coated x y hx' hy' again
    · rw [second.bare x y hx' hy' again]
      exact first.coated x y hx hy (member.resolve_right again)
  bare x y hx hy missed := by
    have hx' : x < q.width := by rwa [first.frame.width_eq]
    have hy' : y < q.height := by rwa [first.frame.height_eq]
    rw [second.bare x y hx' hy' fun member => missed (.inr member)]
    exact first.bare x y hx hy fun member => missed (.inl member)

theorem congr (coats : Coats area color p q) (same : ∀ x y, other x y ↔ area x y) :
    Coats other color p q where
  frame := coats.frame
  coated x y hx hy member := coats.coated x y hx hy ((same x y).mp member)
  bare x y hx hy missed := coats.bare x y hx hy (mt (same x y).mpr missed)

end Coats

/-- Recolouring a cell coats this cell. -/
theorem coats_recolor {p : Pixmap} {x y : Nat} (hx : x < p.width) (hy : y < p.height)
    (color : Color) : Coats (fun x' y' => x' = x ∧ y' = y) color p (p.recolor x y color) where
  frame := ⟨rfl, rfl, rfl⟩
  coated x' y' hx' hy' here := by rw [p.colorAt_recolor hx hy color hx' hy', if_pos here]
  bare x' y' hx' hy' away := by rw [p.colorAt_recolor hx hy color hx' hy', if_neg away]

/-- All cells of a filled picture have its colour. -/
theorem colorAt_fill (p : Pixmap) (color : Color) {x y : Nat} (hx : x < p.width)
    (hy : y < p.height) : (p.fill color).colorAt x y = color := by
  have physical := p.orientation.physical_lt hx hy
  rw [colorAt_eq_shown]
  exact p.shown_fill color physical.1 physical.2

/-- A coat that leaves no cell out is what filling comes to. -/
theorem Coats.eq_fill {area : Nat → Nat → Prop} {color : Color} {p q : Pixmap}
    (coats : Coats area color p q) (everywhere : ∀ x y, x < p.width → y < p.height → area x y) :
    q = p.fill color := by
  have frame : SameFrame (p.fill color) q :=
    ⟨coats.frame.orientation, coats.frame.background, coats.frame.transparent⟩
  apply frame.eq_of_colorAt
  intro x y hx hy
  rw [coats.coated x y hx hy (everywhere x y hx hy), p.colorAt_fill color hx hy]

/-- **Nothing is left of what was there** when a source of the picture's own size is laid over the
cleared picture. A see-through picture refuses its background colour, but a cleared cell has just
this colour. -/
theorem exists_draw_clear {source : Source} (readable : source.Readable) {p : Pixmap}
    (width : source.width = p.width) (height : source.height = p.height) :
    ∃ q, draw source 0 0 Flip.none p.clear = .ok () q ∧ SameFrame p q ∧
      ∀ x y, x < p.width → y < p.height → q.colorAt x y = source.colorAt x y := by
  obtain ⟨q, drawn, frame, colors⟩ := draw_eq readable 0 0 Flip.none p.clear
  refine ⟨q, drawn, ⟨frame.orientation, frame.background, frame.transparent⟩, fun x y hx hy => ?_⟩
  have seen : source.seenAt 0 0 Flip.none x y = some (source.colorAt x y) := by
    rw [Source.seenAt_none, if_pos (by omega), Int.sub_zero, Int.sub_zero, Int.toNat_natCast,
      Int.toNat_natCast]
  have cleared : p.clear.colorAt x y = p.background := p.colorAt_fill p.background hx hy
  rw [colors x y hx hy, seen, cleared, under]
  split
  · rename_i refused
    exact refused.2.symm
  · rfl

end Pixmap

/-! ## Loops -/

namespace Device

theorem counted_of_lt {length : Nat} (fits : length < lengthLimit) : counted length = length := by
  rw [counted, coordinate_of_lt fits, Int.toNat_natCast]

variable {σ : Type} (device : Device σ)

theorem clearRow_eq (color : Color) (y : Nat) (now : σ) :
    device.clearRow color y now = (List.range (counted (device.width now))).forM
      (fun (x : Nat) => device.setPixel x y color) now := by
  unfold clearRow
  exact Edit.bind_of_ok rfl

theorem clear_eq (start : σ) :
    device.clear start = (List.range (counted (device.height start))).forM
      (device.clearRow (device.background start)) start := by
  unfold clear
  exact Edit.bind_of_ok rfl

end Device

open Pixmap

namespace Holder

variable {τ : Type} (holder : Holder τ) {p : Pixmap}

/-- A loop over coats is one coat. Each turn begins with a picture in the frame of the first one. -/
theorem forM_coats {color : Color} {step : Nat → Edit τ PUnit} {area : Nat → Nat → Nat → Prop}
    {listed : List Nat}
    (each : ∀ turn ∈ listed, ∀ whole, SameFrame p (holder.picture whole) →
      ∃ q, step turn whole = .ok ⟨⟩ (holder.replace whole q) ∧
        Coats (area turn) color (holder.picture whole) q)
    {whole : τ} (frame : SameFrame p (holder.picture whole)) :
    ∃ q, listed.forM step whole = .ok ⟨⟩ (holder.replace whole q) ∧
      Coats (fun x y => ∃ turn ∈ listed, area turn x y) color (holder.picture whole) q := by
  induction listed generalizing whole with
  | nil =>
      refine ⟨holder.picture whole, ?_, .nothing fun x y => ?_⟩
      · rw [holder.replace_picture]
        rfl
      · rintro ⟨turn, member, -⟩
        cases member
  | cons turn rest ih =>
      obtain ⟨first, ran, coat⟩ := each turn List.mem_cons_self whole frame
      have held : holder.picture (holder.replace whole first) = first :=
        holder.picture_replace whole first
      have frame' : SameFrame p (holder.picture (holder.replace whole first)) := by
        rw [held]
        exact frame.trans coat.frame
      obtain ⟨last, ran', coat'⟩ :=
        ih (fun other member => each other (List.mem_cons_of_mem turn member)) frame'
      rw [holder.replace_replace] at ran'
      rw [held] at coat'
      refine ⟨last, (Edit.bind_of_ok ran).trans ran', (coat.trans coat').congr fun x y => ?_⟩
      simp only [List.mem_cons, exists_eq_or_imp]

/-- Recolouring a cell of the picture that is held. -/
theorem setPixel_coats {whole : τ} {x y : Nat} (hx : x < (holder.picture whole).width)
    (hy : y < (holder.picture whole).height) (color : Color) :
    ∃ q, holder.device.setPixel x y color whole = .ok () (holder.replace whole q) ∧
      Coats (fun x' y' => x' = x ∧ y' = y) color (holder.picture whole) q := by
  have cell : setPixel x y color (holder.picture whole) =
      .ok () ((holder.picture whole).recolor x y color) := by
    rw [setPixel_eq, cellAt_of_lt hx hy]
  exact ⟨_, holder.paint_of_ok cell, coats_recolor hx hy color⟩

/-- Clearing a row coats it. -/
theorem clearRow_coats (color : Color) {now : τ} (frame : SameFrame p (holder.picture now))
    (width : p.width < lengthLimit) {y : Nat} (hy : y < p.height) :
    ∃ q, holder.device.clearRow color y now = .ok () (holder.replace now q) ∧
      Coats (fun x' y' => ∃ x ∈ List.range p.width, x' = x ∧ y' = y) color
        (holder.picture now) q := by
  have columns : Device.counted (holder.device.width now) = p.width :=
    (congrArg Device.counted frame.width_eq).trans (Device.counted_of_lt width)
  rw [Device.clearRow_eq, columns]
  refine holder.forM_coats (fun x listed whole same => ?_) frame
  have hx : x < p.width := List.mem_range.mp listed
  exact holder.setPixel_coats (by rwa [same.width_eq]) (by rwa [same.height_eq]) color

/-- **The loops come to an end and leave no cell out**, so the picture that is held is cleared. -/
theorem clear_eq (whole : τ) (width : (holder.picture whole).width < lengthLimit)
    (height : (holder.picture whole).height < lengthLimit) :
    holder.device.clear whole =
      .ok () (holder.replace whole (holder.picture whole).clear) := by
  have rows : Device.counted (holder.device.height whole) = (holder.picture whole).height :=
    Device.counted_of_lt height
  have background : holder.device.background whole = (holder.picture whole).background := rfl
  rw [Device.clear_eq, rows, background]
  have row (y : Nat) (listed : y ∈ List.range (holder.picture whole).height) (now : τ)
      (frame : SameFrame (holder.picture whole) (holder.picture now)) :=
    holder.clearRow_coats (holder.picture whole).background frame width (List.mem_range.mp listed)
  obtain ⟨q, ran, coat⟩ := holder.forM_coats row (.refl (holder.picture whole))
  have filled : q = (holder.picture whole).clear := by
    apply coat.eq_fill
    intro x y hx hy
    exact ⟨y, List.mem_range.mpr hy, x, List.mem_range.mpr hx, rfl, rfl⟩
  rw [ran, filled]

end Holder

namespace Pixmap

/-- A picture holds itself. -/
def holder : Holder Pixmap where
  picture := id
  replace _ picture := picture
  picture_replace _ _ := rfl
  replace_picture _ := rfl
  replace_replace _ _ _ := rfl

theorem paint_holder {α : Type} (edit : Edit Pixmap α) : holder.paint edit = edit := by
  funext p
  unfold Holder.paint Edit.within
  dsimp only [holder, id]
  cases edit p <;> rfl

theorem device_holder : holder.device = device := by
  simp only [Holder.device, device, paint_holder]
  rfl

/-- **Clearing cell by cell is clearing.** Take any picture of a size that signed 32-bit numbers can
count. Recolouring its cells one after the other comes to an end and leaves the picture that filling
the memory leaves: the background colour in every place, and everything but the memory as it was.
So whatever holds the picture is cleared alike, be it cell by cell or by clearing the picture that
it holds, and nothing else about it changes. -/
theorem clearCells_eq_clear {p : Pixmap} (width : p.width < lengthLimit)
    (height : p.height < lengthLimit) :
    clearCells p = .ok () p.clear ∧
    perform .clear p = .ok () p.clear ∧
    p.clear.memory = Array.replicate p.memory.size p.background ∧
    SameFrame p p.clear ∧
    ∀ (τ : Type) (holder : Holder τ) (whole : τ), holder.picture whole = p →
      holder.device.clear whole = .ok () (holder.replace whole p.clear) ∧
        holder.paint (modify clear) whole = .ok () (holder.replace whole p.clear) := by
  have slow : clearCells p = .ok () p.clear := by
    have cleared := holder.clear_eq p width height
    rwa [device_holder] at cleared
  refine ⟨slow, rfl, ?_, ⟨rfl, rfl, rfl⟩, fun τ holder whole held => ?_⟩
  · rw [p.size_memory]
    rfl
  · subst held
    exact ⟨holder.clear_eq whole width height, holder.paint_of_ok rfl⟩

/-- A mirrored panel of three by two cells, turned by a quarter, with one cell coloured, a strip
that shows it and a window with the same picture. -/
theorem clearCells_eq_clear_mirrored :
    let p := (((blank 3 2 .serpentine).withRotation .quarter { x := true }).setBackground
      .pureBlue).recolor 0 2 .pureRed
    let strip : Strip Headless := { Strip.new { width := 3, height := 2 } {} with picture := p }
    p.memory = #[.black, .black, .black, .black, .black, .pureRed] ∧
      clearCells p = .ok () p.clear ∧
      p.clear.memory = Array.replicate 6 .pureBlue ∧
      (Strip.holder Headless).device.clear strip = .ok () { strip with picture := p.clear } ∧
      Strip.paint (modify clear) strip = .ok () { strip with picture := p.clear } ∧
      Window.holder.device.clear { buffer := p } = .ok () { buffer := p.clear } := by
  intro p strip
  obtain ⟨slow, -, memory, -, held⟩ := clearCells_eq_clear (p := p) (by decide) (by decide)
  obtain ⟨cells, whole⟩ := held _ (Strip.holder Headless) strip rfl
  exact ⟨by decide, slow, memory, cells, whole, (held _ Window.holder { buffer := p } rfl).1⟩

end Pixmap

end LedMatrix
