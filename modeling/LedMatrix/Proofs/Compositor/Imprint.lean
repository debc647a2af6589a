/-
# Painting a window onto itself

A window that is painted onto itself, in its place, takes the picture of everything on it over into
its own picture (`Compositor.Imprinted`). What lies on the window stays there and is asked first, as
before. The picture below it is now laid over with what is shown there already, and a see-through
window keeps its old colour where that is its background. Either way the cell shows what it showed:
if an entry gives it a colour, that entry still does, and if none does, the colour that was laid
over it was its own.

On a window that is not see-through every cell of its own picture has taken the shown colour. So
nothing of what lies on it is needed any more, and it can be cleared off.
-/

import LedMatrix.Proofs.Compositor.Clearing
import LedMatrix.Proofs.Compositor.Flattening

namespace LedMatrix

namespace Pixmap

/-- On a picture that is not see-through the colour laid over a cell is what is left. -/
theorem under_of_solid {p : Pixmap} (solid : p.transparent = false) (old color : Color) :
    p.under old (some color) = color := by
  rw [under, if_neg]
  rintro ⟨seeThrough, -⟩
  exact Bool.false_ne_true (solid.symm.trans seeThrough)

/-- A cell that is laid over with what it shows under given layers shows the same under them. -/
theorem getD_under_getD (p : Pixmap) (given : Option Color) (old : Color) :
    given.getD (p.under old (some (given.getD old))) = given.getD old := by
  cases given with
  | some color => rfl
  | none => exact ite_self old

end Pixmap

/-- Laid in its place, a source shows its own cells. -/
theorem Source.seenAt_origin (source : Source) {column row : Nat} (hx : column < source.width)
    (hy : row < source.height) :
    source.seenAt 0 0 Flip.none column row = some (source.colorAt column row) := by
  have inside : 0 ≤ (column : Int) - 0 ∧ (column : Int) - 0 < source.width ∧
      0 ≤ (row : Int) - 0 ∧ (row : Int) - 0 < source.height := by omega
  rw [Source.seenAt_none, if_pos inside, Int.sub_zero, Int.sub_zero, Int.toNat_natCast,
    Int.toNat_natCast]

namespace Compositor

variable {c left : Compositor}

/-! ## The own picture afterwards -/

/-- A window's own picture with the picture of everything on the window laid over it. -/
structure Imprinted (c : Compositor) (window : Window) (painted : Pixmap) : Prop where
  frame : Pixmap.SameFrame window.buffer painted
  colors : ∀ column row, column < window.buffer.width → row < window.buffer.height →
    painted.colorAt column row =
      window.buffer.under (window.buffer.colorAt column row) (some (c.shownAt window column row))

/-- The window after its own picture has been replaced. -/
def imprint (c : Compositor) (id : WindowId) (painted : Pixmap) : Compositor :=
  c.update id fun window => { window with buffer := painted }

theorem find?_imprint {id : WindowId} {window : Window} (found : c.find? id = some window)
    (painted : Pixmap) :
    (c.imprint id painted).find? id = some { window with buffer := painted } := by
  rw [imprint, find?_update_same, found]
  rfl

/-- Other windows are left alone. -/
theorem untouched_imprint {id other : WindowId} (distinct : other ≠ id) (painted : Pixmap) :
    c.Untouched (c.imprint id painted) other :=
  untouched_update_of_ne distinct _

theorem parent?_imprint (id : WindowId) (painted : Pixmap) (other : WindowId) :
    (c.imprint id painted).parent? other = c.parent? other := by
  refine c.parent?_update_of_same id _ (fun window => ?_) other
  rfl

theorem Linked.imprint (linked : c.Linked) (id : WindowId) (painted : Pixmap) :
    (c.imprint id painted).Linked :=
  linked.update (fun _ _ => rfl) fun _ _ _ => rfl

/-- A change that makes no difference to the window makes none at all. -/
theorem imprint_of_same {id : WindowId} {window : Window} (found : c.find? id = some window) :
    c.imprint id window.buffer = c := by
  have slots : (c.slots.modify id.slot fun slot =>
      { slot with window := slot.window.map fun held => { held with buffer := window.buffer } }) =
        c.slots := by
    apply Array.ext_getElem?
    intro place
    rw [Array.getElem?_modify]
    split
    · next here =>
        rw [← here, find?_eq_some.mp found]
        rfl
    · rfl
  rw [imprint, update, if_pos (isAlive_of_find? found), slots]

/-- **Painting a legible window onto itself** imprints it. -/
theorem Linked.drawWindow_self (linked : c.Linked) {id : WindowId} {window : Window}
    (found : c.find? id = some window) (legible : c.Legible id) :
    ∃ painted, c.Imprinted window painted ∧
      drawWindow id id 0 0 Flip.none c = .ok () (c.imprint id painted) := by
  obtain ⟨readable, shown⟩ := linked.readable_view found legible
  rw [← pixel_of_find? found] at readable shown
  obtain ⟨painted, drawn, -, done⟩ :=
    drawWindow_of_readable found found readable 0 0 Flip.none
  obtain ⟨painted', drawn', frame, colors⟩ :=
    Pixmap.draw_eq readable 0 0 Flip.none window.buffer
  obtain ⟨-, rfl⟩ := EStateM.Result.ok.inj (drawn.symm.trans drawn')
  refine ⟨painted, ⟨frame, fun column row hx hy => ?_⟩, done⟩
  rw [colors column row hx hy, Source.seenAt_origin _ hx hy, shown column row hx hy]

/-! ## The pictures afterwards -/

/-- Two windows of one frame that show the same at their cells look the same. -/
theorem Linked.view_eq_of_shownAt (linked : c.Linked) (linked' : left.Linked) {id : WindowId}
    {window window' : Window} (found : c.find? id = some window)
    (found' : left.find? id = some window')
    (layers : ∀ entry ∈ window.entries, ∃ layer, c.layer entry.node = .ok layer ∧ layer.Readable)
    (layers' : ∀ entry ∈ window'.entries,
      ∃ layer, left.layer entry.node = .ok layer ∧ layer.Readable)
    (frame : Pixmap.SameFrame window.buffer window'.buffer)
    (shown : ∀ column row, column < window.buffer.width → row < window.buffer.height →
      left.shownAt window' column row = c.shownAt window column row) :
    left.view id = c.view id := by
  have read : left.read window' = c.read window := by
    funext x y
    cases inside : cellAt x y window.buffer.width window.buffer.height with
    | error cause =>
        rw [linked'.read_eq found', linked.read_eq found, readOver, readOver, frame.width_eq,
          frame.height_eq, inside]
        rfl
    | ok cell =>
        obtain ⟨column, row⟩ := cell
        obtain ⟨rfl, rfl, hx, hy⟩ := cellAt_eq_ok.mp inside
        rw [linked'.read_of_layers found' layers' (by rwa [frame.width_eq])
          (by rwa [frame.height_eq]), linked.read_of_layers found layers hx hy,
          shown column row hx hy]
  rw [view_of_find? found', view_of_find? found, Window.source, Window.source, read,
    frame.width_eq, frame.height_eq, frame.background]

/-- What lies on a window looks as before when the window's own picture has been replaced. -/
theorem Linked.layer_imprint (linked : c.Linked) {id : WindowId} {window : Window}
    (found : c.find? id = some window) (painted : Pixmap) {entry : Entry}
    (member : entry ∈ window.entries) :
    (c.imprint id painted).layer entry.node = c.layer entry.node := by
  cases named : entry.node with
  | source number source => rfl
  | window above =>
      obtain ⟨child, foundChild, link, -⟩ := linked.exists_find?_of_mem found member named
      refine linked.view_eq (linked.imprint id painted) foundChild fun other way => ?_
      refine untouched_imprint ?_ painted
      rintro rfl
      exact linked.acyclic other (.tail' way link)

/-- A window that is as legible as before. -/
theorem Legible.imprint {id : WindowId} {window : Window} (legible : c.Legible id)
    (found : c.find? id = some window) {painted : Pixmap}
    (frame : Pixmap.SameFrame window.buffer painted) : (c.imprint id painted).Legible id := by
  have links : (c.imprint id painted).LiesOn = c.LiesOn := by
    funext above below
    rw [LiesOn, LiesOn, parent?_imprint]
  intro above held way foundAbove
  rw [links] at way
  by_cases here : above = id
  · subst here
    obtain rfl := Option.some.inj ((find?_imprint found painted).symm.trans foundAbove)
    obtain ⟨width, height, readable⟩ := legible above window way found
    exact ⟨frame.width_eq.trans_lt width, frame.height_eq.trans_lt height, readable⟩
  · rw [Compositor.imprint, find?_update_of_ne _ _ here] at foundAbove
    exact legible above held way foundAbove

namespace Imprinted

variable {id : WindowId} {window : Window} {painted : Pixmap}
  (imprinted : c.Imprinted window painted) (linked : c.Linked)
  (found : c.find? id = some window)
include imprinted linked found

/-- **A cell shows what it showed.** An entry that gave it a colour still does, and otherwise the
colour laid over it was its own. -/
theorem shownAt_eq {column row : Nat} (hx : column < window.buffer.width)
    (hy : row < window.buffer.height) :
    (c.imprint id painted).shownAt { window with buffer := painted } column row =
      c.shownAt window column row := by
  have given :
      window.entries.findSome?
          ((c.imprint id painted).givenBy window.buffer.transparent column row) =
        window.entries.findSome? (c.givenBy window.buffer.transparent column row) := by
    rw [← List.head?_filterMap, ← List.head?_filterMap]
    refine congrArg List.head? (List.filterMap_congr fun entry member => ?_)
    rw [givenBy, givenBy, linked.layer_imprint found painted member]
  rw [shownAt]
  dsimp only
  rw [imprinted.frame.transparent, given, imprinted.colors column row hx hy, shownAt,
    Pixmap.getD_under_getD]

/-- The window looks as before. -/
theorem view_eq (legible : c.Legible id) : (c.imprint id painted).view id = c.view id := by
  have layers := linked.layers_readable found legible
  refine linked.view_eq_of_shownAt (linked.imprint id painted) found (find?_imprint found painted)
    layers (fun entry member => ?_) imprinted.frame
    (fun column row => imprinted.shownAt_eq linked found)
  rw [linked.layer_imprint found painted member]
  exact layers entry member

/-- So does every other window, whether or not it is below this one. -/
theorem looksAlike (legible : c.Legible id) {other : WindowId} (alive : c.isAlive other = true) :
    c.LooksAlike (c.imprint id painted) other := by
  obtain ⟨held, foundOther⟩ := isAlive_iff.mp alive
  refine .of_view_eq foundOther ((c.isAlive_update id _ other).trans alive) ?_
  refine linked.view_eq_of_untouched_or_same (linked.imprint id painted) foundOther
    fun above _ => ?_
  by_cases here : above = id
  · subst here
    exact .inr (imprinted.view_eq linked found legible)
  · exact .inl (untouched_imprint here painted)

/-- A second imprint is the first one. -/
theorem eq_of_imprinted {again : Pixmap}
    (imprinted' : (c.imprint id painted).Imprinted { window with buffer := painted } again) :
    again = painted := by
  refine imprinted'.frame.eq_of_colorAt fun column row hx hy => ?_
  rw [imprinted'.colors column row hx hy]
  have hx' : column < window.buffer.width := by rwa [← imprinted.frame.width_eq]
  have hy' : row < window.buffer.height := by rwa [← imprinted.frame.height_eq]
  rw [imprinted.shownAt_eq linked found hx' hy', imprinted.colors column row hx' hy',
    imprinted.frame.under_eq, Pixmap.under_under]

/-- If the window is not see-through, its own picture alone looks as the window did. -/
theorem view_eq_of_bare (legible : c.Legible id) (solid : window.buffer.transparent = false)
    {cleared : Compositor} (linked' : cleared.Linked) {bare : Window}
    (foundBare : cleared.find? id = some bare) (buffer : bare.buffer = painted)
    (empty : bare.entries = []) : cleared.view id = c.view id := by
  subst buffer
  refine linked.view_eq_of_shownAt linked' found foundBare (linked.layers_readable found legible)
    (fun entry member => ?_) imprinted.frame fun column row hx hy => ?_
  · rw [empty] at member
    exact absurd member List.not_mem_nil
  · rw [shownAt, empty, List.findSome?_nil, Option.getD_none, imprinted.colors column row hx hy,
      Pixmap.under_of_solid solid]

end Imprinted

/-- **A window painted onto itself looks as before.** Take any live window of a reachable compositor
that is of a size that fits, with everything on it, and whose sources can be read. Painting it onto
itself in its place succeeds, and this window and every other one look as before, among them those
that it lies on. Doing it again changes nothing at all. If the window is not see-through, everything
on it can be cleared off then: in any order, with each window taken off or destroyed and each source
unregistered, this succeeds at every step and leaves a window with nothing on it that still looks
as before. -/
theorem looksAlike_of_drawWindow_self (reachable : c.Reachable) {id : WindowId} {window : Window}
    (found : c.find? id = some window) (legible : c.Legible id) :
    ∃ left, drawWindow id id 0 0 Flip.none c = .ok () left ∧
      (∀ other, c.isAlive other = true → c.LooksAlike left other) ∧
      drawWindow id id 0 0 Flip.none left = .ok () left ∧
      (window.buffer.transparent = false →
        ∀ order actions, order.Perm window.children → List.Forall₂ (Clears id) order actions →
          (∀ answer ∈ Edit.answers (actions.map perform) left, answer = .ok .done) ∧
          (Edit.afterAll (actions.map perform) left).children id = .ok [] ∧
          c.LooksAlike (Edit.afterAll (actions.map perform) left) id) := by
  have sound := reachable.sound
  obtain ⟨painted, imprinted, done⟩ := sound.linked.drawWindow_self found legible
  have foundPainted := find?_imprint found painted
  have sound' : (c.imprint id painted).Sound := by
    rw [← Edit.after_of_ok done]
    exact sound.drawWindow id id 0 0 Flip.none
  refine ⟨_, done, fun other => imprinted.looksAlike sound.linked found legible, ?_, ?_⟩
  · obtain ⟨again, imprinted', done'⟩ := sound'.linked.drawWindow_self foundPainted
      (legible.imprint found imprinted.frame)
    obtain rfl := imprinted.eq_of_imprinted sound.linked found imprinted'
    exact done'.trans (congrArg (EStateM.Result.ok ()) (imprint_of_same foundPainted))
  · intro solid order actions listed clearing
    obtain ⟨answered, bare, foundBare, buffer, empty⟩ :=
      sound'.cleared foundPainted clearing listed
    have same := imprinted.view_eq_of_bare sound.linked found legible solid
      (sound'.afterAll actions).linked foundBare buffer empty
    refine ⟨answered, ?_, .of_view_eq found (isAlive_of_find? foundBare) same⟩
    rw [children, window_of_find? foundBare]
    change Except.ok (bare.entries.map _) = _
    rw [empty, List.map_nil]

/-- A hanging window on another one. A white window and a black tile that overlaps it lie on it. -/
def mosaic : Compositor :=
  run [.createWindow 3 3, .createChild ⟨0, 0⟩ 1 0 3 2,
    .paint ⟨1, 0⟩ (Pixmap.perform (.rotate 90 Flip.none)),
    .addSource ⟨1, 0⟩ (Pixmap.blank 1 1).toSource 0 1, .createChild ⟨1, 0⟩ 0 0 2 3,
    .paint ⟨2, 0⟩ (Pixmap.perform (.fill .white))]

/-- After the hanging window has been painted onto itself, the white window on it is destroyed and
the tile is unregistered. It is still white at its upper left cell, and black where the tile was. -/
theorem looksAlike_of_drawWindow_self_mosaic :
    mosaic.Reachable ∧ mosaic.Legible ⟨1, 0⟩ ∧
    ∃ left, drawWindow ⟨1, 0⟩ ⟨1, 0⟩ 0 0 Flip.none mosaic = .ok () left ∧
      mosaic.LooksAlike left ⟨0, 0⟩ ∧
      let cleared :=
        Edit.afterAll ([.destroy ⟨2, 0⟩, .removeSource ⟨1, 0⟩ ⟨0⟩].map perform) left
      cleared.children ⟨1, 0⟩ = .ok [] ∧ cleared.pixel ⟨1, 0⟩ 0 0 = .ok .white ∧
        cleared.pixel ⟨1, 0⟩ 0 1 = .ok .black := by
  have reachable : mosaic.Reachable := ⟨_, rfl⟩
  have alive : mosaic.live = [⟨0, 0⟩, ⟨1, 0⟩, ⟨2, 0⟩] := by decide
  have legible : mosaic.Legible ⟨1, 0⟩ := by
    intro above window _ foundAbove
    have listed := mem_live.mpr (isAlive_of_find? foundAbove)
    rw [alive, List.mem_cons, List.mem_cons, List.mem_singleton] at listed
    rcases listed with rfl | rfl | rfl <;> obtain rfl := Option.some.inj foundAbove
    · refine ⟨by decide, by decide, fun entry member number source named => ?_⟩
      obtain rfl := List.mem_singleton.mp member
      cases named
    · refine ⟨by decide, by decide, fun entry member number source named => ?_⟩
      rcases List.mem_cons.mp member with rfl | last
      · obtain ⟨-, rfl⟩ := Node.source.inj named
        exact (Pixmap.blank 1 1).readable_toSource (by decide) (by decide)
      · obtain rfl := List.mem_singleton.mp last
        cases named
    · exact ⟨by decide, by decide, fun entry member => absurd member List.not_mem_nil⟩
  obtain ⟨window, found⟩ := isAlive_iff.mp (show mosaic.isAlive ⟨1, 0⟩ = true by decide)
  have children : window.children = [.source ⟨0⟩, .window ⟨2, 0⟩] := by
    obtain rfl := Option.some.inj found
    rfl
  have solid : window.buffer.transparent = false := by
    obtain rfl := Option.some.inj found
    rfl
  have listed : [Child.window ⟨2, 0⟩, .source ⟨0⟩].Perm window.children := by
    rw [children]
    exact .swap _ _ _
  obtain ⟨left, done, alike, -, clears⟩ :=
    looksAlike_of_drawWindow_self reachable found legible
  obtain ⟨-, empty, same⟩ := clears solid _ _ listed
    (.cons (.destroy ⟨2, 0⟩) (.cons (.removeSource ⟨0⟩) .nil))
  exact ⟨reachable, legible, left, done, alike _ (by decide), empty,
    (same.pixel 0 0).trans (by decide), (same.pixel 0 1).trans (by decide)⟩

end Compositor

end LedMatrix
