/-
# Painting a window onto another one

A window is painted onto another one as it looks, with everything that lies on it. The two may
be one window, or one may lie on the other, so the painting can change what is being painted. It
does not, since the picture is taken before anything is painted, and it cannot stop half-way,
since a picture that has been taken can be read wherever it is.

`drawWindow_all_or_nothing` says what comes of it for any two handles. `Prevented` lists the
reasons for a refusal: besides a stale handle there is only a source, on the window or on one
further up, that fails at one of its own cells (`SourceFails`). Windows do not fail by themselves.
-/

import LedMatrix.Proofs.Compositor.Layers
import LedMatrix.Proofs.Pixmap.Placement

namespace LedMatrix.Compositor

variable {c : Compositor}

/-! ## Where a reading can fail -/

/-- A source that lies on a window, directly or on a window further up, fails at one of the cells
that it claims to have. -/
inductive SourceFails (c : Compositor) (cause : CanvasError) : WindowId → Prop
  | here {id : WindowId} {window : Window} {number : SourceId} {source : Source} {x y : Int}
      (found : c.find? id = some window) (member : ⟨.source number source, x, y⟩ ∈ window.entries)
      {column row : Nat} (column_lt : column < source.width) (row_lt : row < source.height)
      (failed : source.pixel (coordinate column) (coordinate row) = .error cause) :
      SourceFails c cause id
  | above {id lying : WindowId} (link : c.LiesOn lying id) (fails : SourceFails c cause lying) :
      SourceFails c cause id

/-- Asking the entries of a window fails only where one of them fails that covers the cell. -/
theorem exists_layer_of_readEntries_error {layerOf : Node → Except CanvasError Source}
    {entries : List Entry} (layered : ∀ entry ∈ entries, ∃ layer, layerOf entry.node = .ok layer)
    {seeThrough : Bool} {x y : Int} {cause : CanvasError}
    (failed : readEntries layerOf seeThrough x y entries = .error cause) :
    ∃ entry ∈ entries, ∃ layer, layerOf entry.node = .ok layer ∧
      ∃ column row : Nat, column < layer.width ∧ row < layer.height ∧
        layer.pixel (coordinate column) (coordinate row) = .error cause := by
  induction entries with
  | nil => cases failed
  | cons entry rest ih =>
      have passedOver (later : readEntries layerOf seeThrough x y rest = .error cause) :
          ∃ other ∈ entry :: rest, ∃ layer, layerOf other.node = .ok layer ∧
            ∃ column row : Nat, column < layer.width ∧ row < layer.height ∧
              layer.pixel (coordinate column) (coordinate row) = .error cause := by
        obtain ⟨other, member, found⟩ :=
          ih (fun other member => layered other (List.mem_cons_of_mem entry member)) later
        exact ⟨other, List.mem_cons_of_mem entry member, found⟩
      obtain ⟨layer, known⟩ := layered entry List.mem_cons_self
      rw [readEntries, known] at failed
      by_cases before : x - entry.x < 0 ∨ y - entry.y < 0
      · exact passedOver ((if_pos before).symm.trans failed)
      · replace failed := (if_neg before).symm.trans failed
        by_cases beyond : (covered layer.width : Int) ≤ x - entry.x ∨
            (covered layer.height : Int) ≤ y - entry.y
        · exact passedOver ((if_pos beyond).symm.trans failed)
        · replace failed := (if_neg beyond).symm.trans failed
          obtain ⟨column, across⟩ := Int.eq_ofNat_of_zero_le (a := x - entry.x) (by omega)
          obtain ⟨row, down⟩ := Int.eq_ofNat_of_zero_le (a := y - entry.y) (by omega)
          have hx : column < covered layer.width := by omega
          have hy : row < covered layer.height := by omega
          rw [across, down] at failed
          cases read : layer.pixel (coordinate column) (coordinate row) with
          | error found =>
              rw [read] at failed
              obtain rfl : found = cause := Except.error.inj failed
              rw [covered_eq_of_lt hx] at hx
              rw [covered_eq_of_lt hy] at hy
              exact ⟨entry, List.mem_cons_self, layer, known, column, row, hx, hy, read⟩
          | ok color =>
              rw [read] at failed
              by_cases key : seeThrough = true ∧ color = layer.background
              · exact passedOver ((if_pos key).symm.trans failed)
              · cases (if_neg key).symm.trans failed

/-- At a cell of a window only the entries can fail, since its own picture has a colour there. -/
theorem readEntries_of_readOver_error {layerOf : Node → Except CanvasError Source}
    {window : Window} {column row : Nat} (hx : column < window.buffer.width)
    (hy : row < window.buffer.height) {cause : CanvasError}
    (failed : readOver layerOf window column row = .error cause) :
    readEntries layerOf window.buffer.transparent column row window.entries = .error cause := by
  rw [readOver, cellAt_of_lt hx hy] at failed
  cases asked : readEntries layerOf window.buffer.transparent column row window.entries with
  | error other =>
      rw [asked] at failed
      exact congrArg Except.error (Except.error.inj failed)
  | ok answer =>
      rw [asked] at failed
      cases answer with
      | some color => cases failed
      | none => cases (window.buffer.pixel_of_lt hx hy).symm.trans failed

/-- **Windows do not fail by themselves.** A window that cannot be read at one of its cells has a
source on it, directly or further up, that fails with the same report. -/
theorem Linked.sourceFails_of_read (linked : c.Linked)
    (fits : ∀ id window, c.find? id = some window →
      window.buffer.width < lengthLimit ∧ window.buffer.height < lengthLimit)
    {id : WindowId} {window : Window} (found : c.find? id = some window) {column row : Nat}
    (hx : column < window.buffer.width) (hy : row < window.buffer.height) {cause : CanvasError}
    (failed : c.read window column row = .error cause) : c.SourceFails cause id := by
  induction id, window, found using linked.induction_above generalizing column row with
  | step id window found ih =>
      have layered : ∀ entry ∈ window.entries, ∃ layer, c.layer entry.node = .ok layer := by
        intro entry member
        cases named : entry.node with
        | source number source => exact ⟨source, rfl⟩
        | window lying =>
            obtain ⟨child, foundChild, -, -⟩ := linked.exists_find?_of_mem found member named
            exact ⟨_, view_of_find? foundChild⟩
      rw [linked.read_eq found] at failed
      obtain ⟨entry, member, layer, known, across, down, across_lt, down_lt, unread⟩ :=
        exists_layer_of_readEntries_error layered (readEntries_of_readOver_error hx hy failed)
      cases named : entry.node with
      | source number source =>
          rw [named] at known
          obtain rfl : source = layer := Except.ok.inj known
          have registered : ⟨.source number source, entry.x, entry.y⟩ ∈ window.entries := by
            rwa [← named]
          exact .here found registered across_lt down_lt unread
      | window lying =>
          obtain ⟨child, foundChild, link, -⟩ := linked.exists_find?_of_mem found member named
          obtain ⟨width, height⟩ := fits lying child foundChild
          rw [named] at known
          obtain rfl := Except.ok.inj ((view_of_find? foundChild).symm.trans known)
          rw [coordinate_of_lt (across_lt.trans width), coordinate_of_lt (down_lt.trans height)]
            at unread
          exact .above link (ih lying child foundChild link across_lt down_lt unread)

/-! ## What prevents the painting -/

/-- Why the picture of one window cannot be painted onto another one, in the order in which it is
found out. -/
inductive Prevented (c : Compositor) (target source : WindowId) : CanvasError → Prop
  /-- There is no such window to be painted. -/
  | sourceStale (stale : c.find? source = none) : Prevented c target source (.staleWindow source)
  /-- The window comes, row by row, to a cell that cannot be read. -/
  | unreadable {window : Window} {cause : CanvasError} (found : c.find? source = some window)
      (fails : (window.source (c.pixel source)).FailsOn cause
        (cells window.buffer.width window.buffer.height))
      (origin : c.SourceFails cause source) : Prevented c target source cause
  /-- The window can be read, but there is no such window to paint on. -/
  | targetStale {window : Window} (found : c.find? source = some window)
      (readable : (window.source (c.pixel source)).Readable) (stale : c.find? target = none) :
      Prevented c target source (.staleWindow target)

theorem snapshot_of_find? {id : WindowId} {window : Window} (found : c.find? id = some window) :
    c.snapshot id = Pixmap.ofSource (window.source (c.pixel id)) := by
  rw [snapshot, view_of_find? found, pixel_of_find? found]
  rfl

theorem snapshot_of_none {id : WindowId} (stale : c.find? id = none) :
    c.snapshot id = .error (.staleWindow id) := by
  rw [snapshot, view, Compositor.window, stale]
  rfl

/-- What is prevented is refused, and nothing has been done. -/
theorem Prevented.drawWindow_eq {target source : WindowId} {cause : CanvasError}
    (prevented : c.Prevented target source cause) (x y : Int) (flip : Flip) :
    drawWindow target source x y flip c = .error cause c := by
  rw [Compositor.drawWindow_eq]
  cases prevented with
  | sourceStale stale => rw [snapshot_of_none stale]
  | unreadable found fails _ =>
      rw [snapshot_of_find? found, Pixmap.ofSource_eq_error_iff.mpr fails]
  | targetStale found readable stale =>
      obtain ⟨picture, taken, -⟩ := Pixmap.ofSource_eq readable
      rw [snapshot_of_find? found, taken]
      dsimp only
      rw [paint_eq, stale]

/-- A readable window is painted onto a live one as it was before. -/
theorem drawWindow_of_readable {target source : WindowId} {base window : Window}
    (onto : c.find? target = some base) (found : c.find? source = some window)
    (readable : (window.source (c.pixel source)).Readable) (x y : Int) (flip : Flip) :
    ∃ painted,
      Pixmap.draw (window.source (c.pixel source)) x y flip base.buffer = .ok () painted ∧
      Pixmap.IsLaidOver (window.source (c.pixel source)) x y flip base.buffer painted ∧
      drawWindow target source x y flip c =
        .ok () (c.update target fun window => { window with buffer := painted }) := by
  obtain ⟨painted, drawn, laid⟩ := Pixmap.exists_isLaidOver readable x y flip base.buffer
  obtain ⟨picture, taken, copy⟩ := Pixmap.ofSource_eq readable
  refine ⟨painted, drawn, laid, ?_⟩
  have copied : Pixmap.draw picture.toSource x y flip base.buffer = .ok () painted :=
    (copy.draw_eq readable x y flip base.buffer).trans drawn
  rw [drawWindow_eq, snapshot_of_find? found, taken]
  dsimp only
  rw [paint_eq, onto]
  dsimp only
  rw [copied]

/-- The painting is prevented, or both windows are there and the one can be read. -/
theorem Linked.prevented_or_readable (linked : c.Linked)
    (fits : ∀ id window, c.find? id = some window →
      window.buffer.width < lengthLimit ∧ window.buffer.height < lengthLimit)
    (target source : WindowId) :
    (∃ cause, c.Prevented target source cause) ∨
      ∃ base window, c.find? target = some base ∧ c.find? source = some window ∧
        (window.source (c.pixel source)).Readable := by
  cases found : c.find? source with
  | none => exact .inl ⟨_, .sourceStale found⟩
  | some window =>
      cases taken : Pixmap.ofSource (window.source (c.pixel source)) with
      | error cause =>
          have fails := Pixmap.ofSource_eq_error_iff.mp taken
          obtain ⟨⟨column, row⟩, inside, failed⟩ := fails.exists_cell
          obtain ⟨hx, hy⟩ := mem_cells.mp inside
          have unread : c.read window column row = .error cause := by
            rwa [← pixel_of_find? found]
          exact .inl ⟨cause, .unreadable found fails
            (linked.sourceFails_of_read fits found hx hy unread)⟩
      | ok picture =>
          obtain ⟨width, height⟩ := fits source window found
          have readable := Pixmap.readable_of_ofSource taken width height
          cases onto : c.find? target with
          | none => exact .inl ⟨_, .targetStale found readable onto⟩
          | some base => exact .inr ⟨base, window, rfl, rfl, readable⟩

/-! ## All or nothing -/

/-- **A window is painted onto another one as it was before, or nothing is changed.** Take any two
handles in a reachable compositor whose windows are of sizes that fit: of one window, of windows
of which one lies on the other, or stale ones. The painting is refused exactly for the reasons
listed, and then the compositor is exactly as it was. Otherwise the picture that the one window
showed before, with everything on it, is laid over the own picture of the other, which keeps its
turn, its background and its flag; every other window keeps its picture, its registry and its
parent, as does the one that was painted on its own, and no handle, empty slot or number of a
registration changes. -/
theorem drawWindow_all_or_nothing (reachable : c.Reachable)
    (fits : ∀ id window, c.find? id = some window →
      window.buffer.width < lengthLimit ∧ window.buffer.height < lengthLimit)
    (target source : WindowId) (x y : Int) (flip : Flip) :
    (∀ cause, (∃ left, drawWindow target source x y flip c = .error cause left) ↔
      c.Prevented target source cause) ∧
    (∀ cause left, drawWindow target source x y flip c = .error cause left → left = c) ∧
    ∀ left, drawWindow target source x y flip c = .ok () left →
      ∃ base window painted, c.find? target = some base ∧ c.find? source = some window ∧
        Pixmap.draw (window.source (c.pixel source)) x y flip base.buffer = .ok () painted ∧
        Pixmap.IsLaidOver (window.source (c.pixel source)) x y flip base.buffer painted ∧
        left.find? target = some { base with buffer := painted } ∧
        (∀ other, other ≠ target → left.find? other = c.find? other) ∧
        left.slots.map (·.generation) = c.slots.map (·.generation) ∧
        left.free = c.free ∧ left.nextSource = c.nextSource := by
  have linked := reachable.sound.linked
  rcases linked.prevented_or_readable fits target source with
    ⟨cause, prevented⟩ | ⟨base, window, onto, found, readable⟩
  · have refused := prevented.drawWindow_eq x y flip
    refine ⟨fun other => ⟨?_, ?_⟩, ?_, ?_⟩
    · rintro ⟨left, failed⟩
      obtain ⟨rfl, -⟩ := EStateM.Result.error.inj (refused.symm.trans failed)
      exact prevented
    · intro prevented'
      exact ⟨c, prevented'.drawWindow_eq x y flip⟩
    · intro other left failed
      exact (EStateM.Result.error.inj (refused.symm.trans failed)).2.symm
    · intro left painted
      cases refused.symm.trans painted
  · obtain ⟨painted, drawn, laid, done⟩ := drawWindow_of_readable onto found readable x y flip
    refine ⟨fun cause => ⟨?_, ?_⟩, ?_, ?_⟩
    · rintro ⟨left, failed⟩
      cases done.symm.trans failed
    · intro prevented
      cases done.symm.trans (prevented.drawWindow_eq x y flip)
    · intro cause left failed
      cases done.symm.trans failed
    · intro left ran
      obtain ⟨-, rfl⟩ := EStateM.Result.ok.inj (done.symm.trans ran)
      refine ⟨base, window, painted, onto, found, drawn, laid, ?_, ?_, ?_, ?_, ?_⟩
      · rw [find?_update_same, onto]
        rfl
      · intro other distinct
        exact c.find?_update_of_ne _ distinct
      · exact c.generations_update target _
      · exact c.free_update target _
      · exact c.nextSource_update target _

/-- A source that claims a cell more than it has. -/
def tornTile : Source := { width := 2, height := 1, pixel := (Pixmap.blank 1 1).pixel }

/-- A window of three cells, the middle one of which is covered by another window, and beside them a
window with a source that cannot be read to its end. -/
def pond : Compositor :=
  run [.createWindow 3 1,
    .paint ⟨0, 0⟩ (Pixmap.perform (.setPixel 0 0 .pureRed)),
    .paint ⟨0, 0⟩ (Pixmap.perform (.setPixel 2 0 .white)),
    .createChild ⟨0, 0⟩ 1 0 1 1, .paint ⟨1, 0⟩ (Pixmap.perform (.fill .pureBlue)),
    .createWindow 2 1, .addSource ⟨2, 0⟩ tornTile 0 0]

/-- Painted onto itself one cell to the right, the window has the blue of the window on it in its
last cell, and not the red that is painted in the middle on the way. The window whose second cell
cannot be read is not painted, not even its first cell. -/
theorem drawWindow_all_or_nothing_pond :
    pond.Reachable ∧
      (∀ id window, pond.find? id = some window →
        window.buffer.width < lengthLimit ∧ window.buffer.height < lengthLimit) ∧
      (∃ left base painted, drawWindow ⟨0, 0⟩ ⟨0, 0⟩ 1 0 Flip.none pond = .ok () left ∧
        pond.find? ⟨0, 0⟩ = some base ∧ base.buffer.memory = #[.pureRed, .black, .white] ∧
        left.find? ⟨0, 0⟩ = some { base with buffer := painted } ∧
        painted.memory = #[.pureRed, .pureRed, .pureBlue]) ∧
      ∃ left, drawWindow ⟨0, 0⟩ ⟨2, 0⟩ 0 0 Flip.none pond = .error (.outOfRange 1 0 1 1) left ∧
        left = pond := by
  have reachable : pond.Reachable := ⟨_, rfl⟩
  have alive : pond.live = [⟨0, 0⟩, ⟨1, 0⟩, ⟨2, 0⟩] := by decide
  have fits : ∀ id window, pond.find? id = some window →
      window.buffer.width < lengthLimit ∧ window.buffer.height < lengthLimit := by
    intro id window found
    have listed := mem_live.mpr (isAlive_of_find? found)
    rw [alive, List.mem_cons, List.mem_cons, List.mem_singleton] at listed
    rcases listed with rfl | rfl | rfl <;> obtain rfl := Option.some.inj found <;> decide
  obtain ⟨-, -, done⟩ :=
    drawWindow_all_or_nothing reachable fits ⟨0, 0⟩ ⟨0, 0⟩ 1 0 Flip.none
  obtain ⟨refused, atomic, -⟩ :=
    drawWindow_all_or_nothing reachable fits ⟨0, 0⟩ ⟨2, 0⟩ 0 0 Flip.none
  have ran : drawWindow ⟨0, 0⟩ ⟨0, 0⟩ 1 0 Flip.none pond =
      .ok () ((drawWindow ⟨0, 0⟩ ⟨0, 0⟩ 1 0 Flip.none).after pond) := rfl
  have torn : pond.find? ⟨2, 0⟩ =
      some { buffer := Pixmap.blank 2 1, entries := [⟨.source ⟨0⟩ tornTile, 0, 0⟩] } := rfl
  have first : pond.pixel ⟨2, 0⟩ 0 0 = .ok .black := by decide
  have second : pond.pixel ⟨2, 0⟩ 1 0 = .error (.outOfRange 1 0 1 1) := by decide
  have prevented : pond.Prevented ⟨0, 0⟩ ⟨2, 0⟩ (.outOfRange 1 0 1 1) :=
    .unreadable torn (.later first (.here second))
      (.here torn List.mem_cons_self (show 1 < 2 by decide) (show 0 < 1 by decide) rfl)
  obtain ⟨left, failed⟩ := (refused _).mpr prevented
  obtain ⟨base, -, painted, onto, -, -, -, found, -⟩ := done _ ran
  refine ⟨reachable, fits, ⟨_, base, painted, ran, onto, ?_, found, ?_⟩, left, failed,
    atomic _ _ failed⟩
  · have shown : (pond.find? ⟨0, 0⟩).map (·.buffer.memory) = some #[.pureRed, .black, .white] := rfl
    rw [onto] at shown
    exact Option.some.inj shown
  · have shown : (((drawWindow ⟨0, 0⟩ ⟨0, 0⟩ 1 0 Flip.none).after pond).find? ⟨0, 0⟩).map
        (·.buffer.memory) = some #[.pureRed, .pureRed, .pureBlue] := rfl
    rw [found] at shown
    exact Option.some.inj shown

end LedMatrix.Compositor
