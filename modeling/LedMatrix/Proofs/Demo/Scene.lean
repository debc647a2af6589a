/-
# The scene of the demo

Three windows in three slots make up the scene: the root and the two windows that move on it. Once
the pictures have been painted nothing but the places of these two ever changes, so the scene after
any number of steps can be written down (`Pictures.scene`). `exists_new` says that the demo starts
with such a scene, and `Framed.checkedAdvance?_scene` that a step goes from one to the next.

Positions are signed numbers of 32 bits, and so are the extents that they wrap around at.
`checkedAdvance?` takes a step operation by operation and gives up as soon as a result does not fit.
What it comes to if it never gives up is the step itself (`advance_of_checkedAdvance?`).
-/

import LedMatrix.Demo
import LedMatrix.Proofs.Compositor.Reading
import LedMatrix.Proofs.Glyph
import LedMatrix.Proofs.Pixmap.Placement

namespace LedMatrix

namespace Demo

/-! ## Steps in which every number fits -/

/-- A signed number of 32 bits, if it is one. -/
def coordinate? (n : Int) : Option Int := if IsCoordinate n then some n else none

/-- The position after the given one along an axis, operation by operation. An extent is handed on
as a signed number of 32 bits. There is no remainder by zero, and that of the least number by minus
one does not fit. -/
def checkedNext? (extent : Nat) (position : Int) : Option Int := do
  let next ← coordinate? (position + 1)
  let modulus := coordinate extent
  if modulus = 0 ∨ (next = -(lengthLimit : Int) ∧ modulus = -1) then none
  else return Int.tmod next modulus

/-- A step of the scene, operation by operation. -/
def checkedAdvance? (demo : Demo) : Option Demo := do
  let root ← (demo.compositor.view demo.root).toOption
  let place ← (demo.compositor.position demo.drifting).toOption
  let column ← checkedNext? root.width (place.getD (0, 0)).1
  let row ← checkedNext? root.height (place.getD (0, 0)).2
  let moved ← (Compositor.moveWindow demo.drifting column row).left? demo.compositor
  let place ← (moved.position demo.scrolling).toOption
  let column ← checkedNext? root.width (place.getD (0, 0)).1
  let compositor ← (Compositor.moveWindow demo.scrolling column (place.getD (0, 0)).2).left? moved
  return { demo with compositor }

/-- Going on after a success. -/
theorem Step.bind_of_ok {σ α β : Type} {step : Step σ α} {next : α → Step σ β} {state left : σ}
    {value : α} (ran : step state = .ok value left) : (step >>= next) state = next value left := by
  change EStateM.bind step next state = next value left
  rw [EStateM.bind, ran]

theorem remainder_of_checkedNext? {σ : Type} {extent : Nat} {position next : Int}
    (checked : checkedNext? extent position = some next) (state : σ) :
    remainder (position + 1) (coordinate extent) state = .ok next state := by
  obtain ⟨sum, fitting, rest⟩ := Option.bind_eq_some_iff.mp checked
  obtain ⟨-, rfl⟩ : IsCoordinate (position + 1) ∧ position + 1 = sum := by
    simpa [coordinate?] using fitting
  dsimp only at rest
  split at rest
  · cases rest
  · rename_i possible
    obtain rfl : Int.tmod (position + 1) (coordinate extent) = next := Option.some.inj rest
    rw [remainder, if_neg fun zero => possible (.inl zero)]
    rfl

/-- An axis that is not empty and that signed 32-bit numbers can count. -/
structure IsAxis (extent : Nat) : Prop where
  nonempty : 0 < extent
  fits : extent < lengthLimit

/-- There is always a next place on an axis, and after the last one comes the first. -/
theorem IsAxis.checkedNext?_mod {extent : Nat} (axis : IsAxis extent) (n : Nat) :
    checkedNext? extent (n % extent : Nat) = some ((n + 1) % extent : Nat) := by
  obtain ⟨nonempty, fits⟩ := axis
  have inside : n % extent < extent := Nat.mod_lt n nonempty
  have sum : IsCoordinate ((n % extent : Nat) + 1) := by
    unfold IsCoordinate
    omega
  have modulus : ¬ ((extent : Int) = 0 ∨
      (((n % extent : Nat) : Int) + 1 = -(lengthLimit : Int) ∧ (extent : Int) = -1)) := by
    omega
  have wrapped : Int.tmod ((n % extent : Nat) + 1) extent = ((n + 1) % extent : Nat) := by
    rw [← Nat.mod_add_mod n extent 1]
    rfl
  rw [checkedNext?, coordinate?, if_pos sum, coordinate_of_lt fits, Option.bind_eq_bind,
    Option.bind_some, if_neg modulus, wrapped]
  rfl

theorem eq_ok_of_toOption {α : Type} {answer : Except CanvasError α} {value : α}
    (found : answer.toOption = some value) : answer = .ok value := by
  cases answer with
  | error cause => cases found
  | ok other => exact congrArg Except.ok (Option.some.inj found)

theorem Step.attempt_of_ok {σ α : Type} {answer : Except CanvasError α} {value : α}
    (found : answer = .ok value) (state : σ) :
    (attempt answer : Step σ α) state = .ok value state := by
  rw [found]
  rfl

theorem Step.arrangeStep_of_left? {edit : Edit Compositor Unit} {demo : Demo} {left : Compositor}
    (ran : edit.left? demo.compositor = some left) :
    arrangeStep edit demo = .ok () { demo with compositor := left } := by
  unfold Edit.left? at ran
  unfold arrangeStep
  cases outcome : edit demo.compositor with
  | error cause other =>
      rw [outcome] at ran
      cases ran
  | ok answer other =>
      rw [outcome] at ran
      obtain rfl : other = left := Option.some.inj ran
      rfl

/-- **Where every number fits, a step is taken** and leads to the same scene. -/
theorem advance_of_checkedAdvance? {demo next : Demo}
    (checked : checkedAdvance? demo = some next) : advance demo = .ok () next := by
  simp only [checkedAdvance?, Option.bind_eq_bind, Option.bind_eq_some_iff] at checked
  obtain ⟨root, viewed, place, placed, column, across, row, down, moved, ran, place', placed',
    column', across', left, ran', last⟩ := checked
  obtain rfl := Option.some.inj last
  replace viewed := eq_ok_of_toOption viewed
  replace placed := eq_ok_of_toOption placed
  replace placed' := eq_ok_of_toOption placed'
  unfold advance
  refine (Step.bind_of_ok rfl).trans ?_
  refine (Step.bind_of_ok (Step.attempt_of_ok viewed demo)).trans ?_
  refine (Step.bind_of_ok (Step.attempt_of_ok placed demo)).trans ?_
  refine (Step.bind_of_ok (remainder_of_checkedNext? across demo)).trans ?_
  refine (Step.bind_of_ok (remainder_of_checkedNext? down demo)).trans ?_
  refine (Step.bind_of_ok (Step.arrangeStep_of_left? ran)).trans ?_
  refine (Step.bind_of_ok rfl).trans ?_
  refine (Step.bind_of_ok (Step.attempt_of_ok placed' _)).trans ?_
  refine (Step.bind_of_ok (remainder_of_checkedNext? across' _)).trans ?_
  exact Step.arrangeStep_of_left? ran'

/-! ## The three windows -/

/-- The pictures of the three windows. -/
structure Pictures where
  root : Pixmap
  drifting : Pixmap
  scrolling : Pixmap

namespace Pictures

variable (pictures : Pictures)

/-- The root, with one window at `(column, row)` and the other one at `(scrolled, 4)`. -/
def rootWindow (column row scrolled : Int) : Window where
  buffer := pictures.root
  entries := [⟨.window ⟨1, 0⟩, column, row⟩, ⟨.window ⟨2, 0⟩, scrolled, 4⟩]

/-- A window that lies on the root. -/
def above (buffer : Pixmap) : Window where
  buffer := buffer
  parent := some ⟨0, 0⟩

/-- The three windows. -/
def windows (column row scrolled : Int) : Compositor where
  slots := #[{ window := some (pictures.rootWindow column row scrolled) },
    { window := some (above pictures.drifting) }, { window := some (above pictures.scrolling) }]

/-- The root before anything lies on it. -/
def alone (root : Pixmap) : Compositor where
  slots := #[{ window := some { buffer := root } }]

/-- The root with the first window. -/
def pair (root drifting : Pixmap) (column row : Int) : Compositor where
  slots := #[
    { window := some { buffer := root, entries := [⟨.window ⟨1, 0⟩, column, row⟩] } },
    { window := some (above drifting) }]

/-- The scene on a root of the given size after `n` steps. -/
def scene (width height n : Nat) : Demo where
  compositor := pictures.windows (n % width : Nat) (n % height : Nat) (n % width : Nat)
  root := ⟨0, 0⟩
  drifting := ⟨1, 0⟩
  scrolling := ⟨2, 0⟩

/-- The pictures have the frames with which the scene is set up, on a root of the given size. -/
structure Framed (width height : Nat) : Prop where
  root : Pixmap.SameFrame ((Pixmap.blank width height).setTransparent true) pictures.root
  drifting : Pixmap.SameFrame ((Pixmap.blank 8 8).withRotation .quarter Flip.none) pictures.drifting
  scrolling : Pixmap.SameFrame (Pixmap.blank 16 8) pictures.scrolling

section Windows

variable (column row scrolled : Int)

theorem find?_root : (pictures.windows column row scrolled).find? ⟨0, 0⟩ =
    some (pictures.rootWindow column row scrolled) := rfl

theorem find?_drifting : (pictures.windows column row scrolled).find? ⟨1, 0⟩ =
    some (above pictures.drifting) := rfl

theorem find?_scrolling : (pictures.windows column row scrolled).find? ⟨2, 0⟩ =
    some (above pictures.scrolling) := rfl

theorem position_drifting :
    (pictures.windows column row scrolled).position ⟨1, 0⟩ = .ok (some (column, row)) := rfl

theorem position_scrolling :
    (pictures.windows column row scrolled).position ⟨2, 0⟩ = .ok (some (scrolled, 4)) := rfl

theorem moveWindow_drifting (x y : Int) :
    Compositor.moveWindow ⟨1, 0⟩ x y (pictures.windows column row scrolled) =
      .ok () (pictures.windows x y scrolled) := rfl

theorem moveWindow_scrolling (x : Int) :
    Compositor.moveWindow ⟨2, 0⟩ x 4 (pictures.windows column row scrolled) =
      .ok () (pictures.windows column row x) := rfl

theorem paint_root {edit : Edit Pixmap Unit} (root : Pixmap)
    (ran : edit pictures.root = .ok () root) :
    Compositor.paint ⟨0, 0⟩ edit (pictures.windows column row scrolled) =
      .ok () (windows { pictures with root } column row scrolled) :=
  Compositor.paint_of_ok (pictures.find?_root column row scrolled) ran

theorem paint_drifting {edit : Edit Pixmap Unit} (drifting : Pixmap)
    (ran : edit pictures.drifting = .ok () drifting) :
    Compositor.paint ⟨1, 0⟩ edit (pictures.windows column row scrolled) =
      .ok () (windows { pictures with drifting } column row scrolled) :=
  Compositor.paint_of_ok (pictures.find?_drifting column row scrolled) ran

theorem paint_scrolling {edit : Edit Pixmap Unit} (scrolling : Pixmap)
    (ran : edit pictures.scrolling = .ok () scrolling) :
    Compositor.paint ⟨2, 0⟩ edit (pictures.windows column row scrolled) =
      .ok () (windows { pictures with scrolling } column row scrolled) :=
  Compositor.paint_of_ok (pictures.find?_scrolling column row scrolled) ran

theorem createWindow_empty (width height : Nat) :
    Compositor.createWindow width height .empty = .ok ⟨0, 0⟩ (alone (.blank width height)) := rfl

theorem createChild_first (root : Pixmap) (width height : Nat) :
    Compositor.createChild ⟨0, 0⟩ column row width height (alone root) =
      .ok ⟨1, 0⟩ (pair root (.blank width height) column row) := rfl

theorem createChild_second (root drifting : Pixmap) (width height : Nat) :
    Compositor.createChild ⟨0, 0⟩ scrolled 4 width height (pair root drifting column row) =
      .ok ⟨2, 0⟩ (windows ⟨root, drifting, .blank width height⟩ column row scrolled) := rfl

/-- Other handles name nothing. -/
theorem eq_of_find? {id : WindowId} {window : Window}
    (found : (pictures.windows column row scrolled).find? id = some window) :
    window = pictures.rootWindow column row scrolled ∨
      window = above pictures.drifting ∨ window = above pictures.scrolling := by
  rw [Compositor.find?_eq_some] at found
  obtain ⟨slot, generation⟩ := id
  rcases slot with _ | _ | _ | slot
  · obtain ⟨-, rfl⟩ : 0 = generation ∧ pictures.rootWindow column row scrolled = window := by
      simpa [windows] using found
    exact .inl rfl
  · obtain ⟨-, rfl⟩ : 0 = generation ∧ above pictures.drifting = window := by
      simpa [windows] using found
    exact .inr (.inl rfl)
  · obtain ⟨-, rfl⟩ : 0 = generation ∧ above pictures.scrolling = window := by
      simpa [windows] using found
    exact .inr (.inr rfl)
  · simp [windows] at found

/-- The three windows come about one after the other. -/
theorem sound_windows : (pictures.windows column row scrolled).Sound := by
  have root := Compositor.sound_empty.perform (.createWindow 1 1)
  rw [Compositor.perform, Edit.after_of_ok (Edit.map_of_ok (createWindow_empty 1 1) _)] at root
  have drifting := root.createChild ⟨0, 0⟩ column row 1 1
  rw [Edit.after_of_ok (createChild_first column row _ 1 1)] at drifting
  have scrolling := drifting.createChild ⟨0, 0⟩ scrolled 4 1 1
  rw [Edit.after_of_ok (createChild_second column row scrolled _ _ 1 1)] at scrolling
  -- What is on the pictures does not matter, so they can be exchanged at the end.
  have exchanged (old new : Pixmap) : (set new : Edit Pixmap Unit) old = .ok () new := rfl
  have first := scrolling.paint ⟨0, 0⟩ (set pictures.root)
  rw [Edit.after_of_ok (paint_root _ column row scrolled _ (exchanged _ _))] at first
  have second := first.paint ⟨1, 0⟩ (set pictures.drifting)
  rw [Edit.after_of_ok (paint_drifting _ column row scrolled _ (exchanged _ _))] at second
  have third := second.paint ⟨2, 0⟩ (set pictures.scrolling)
  rwa [Edit.after_of_ok (paint_scrolling _ column row scrolled _ (exchanged _ _))] at third

end Windows

section Framed

variable {pictures} {width height : Nat} (framed : pictures.Framed width height)
include framed

theorem Framed.root_width : pictures.root.width = width := framed.root.width_eq

theorem Framed.root_height : pictures.root.height = height := framed.root.height_eq

variable (hw : width < lengthLimit) (hh : height < lengthLimit) (column row scrolled : Int)
include hw hh

/-- Every window of the scene is of a size that fits, and there are no sources. -/
theorem Framed.fits {id : WindowId} {window : Window}
    (found : (pictures.windows column row scrolled).find? id = some window) : window.Fits := by
  rcases pictures.eq_of_find? column row scrolled found with rfl | rfl | rfl
  · refine ⟨framed.root_width.trans_lt hw, framed.root_height.trans_lt hh, ?_⟩
    intro entry member number source named
    rcases List.mem_pair.mp member with rfl | rfl <;> cases named
  · refine ⟨framed.drifting.width_eq.trans_lt (by decide),
      framed.drifting.height_eq.trans_lt (by decide), nofun⟩
  · refine ⟨framed.scrolling.width_eq.trans_lt (by decide),
      framed.scrolling.height_eq.trans_lt (by decide), nofun⟩

/-- **The root can be read** with all that lies on it. -/
theorem Framed.exists_view : ∃ view,
    (pictures.windows column row scrolled).view ⟨0, 0⟩ = .ok view ∧ view.Readable ∧
      view.width = width ∧ view.height = height ∧
      view.pixel = (pictures.windows column row scrolled).pixel ⟨0, 0⟩ := by
  have found := pictures.find?_root column row scrolled
  have linked := (pictures.sound_windows column row scrolled).linked
  obtain ⟨readable, -⟩ := linked.readable_view found fun above window _ foundAbove =>
    framed.fits hw hh column row scrolled foundAbove
  refine ⟨_, Compositor.view_of_find? found, readable, framed.root_width, framed.root_height, ?_⟩
  rw [Compositor.pixel_of_find? found]
  rfl

end Framed

end Pictures

/-! ## The start -/

/-- A line of text is written, and only colours change. -/
theorem exists_writeLine (text : String) (short : text.length < Lettering.textLimit)
    (ink : Color) (x y : Int) (p : Pixmap) :
    ∃ q, writeLine text ink x y p = .ok () q ∧ Pixmap.SameFrame p q := by
  let glyph : Glyph := { lettering := .text text, ink }
  have readable : glyph.toSource.Readable := Glyph.readable_toSource short
  obtain ⟨q, drawn, frame, -⟩ := Pixmap.draw_eq readable x y Flip.none p
  exact ⟨q, drawn, frame⟩

/-- The windows of the scene can always be set up. -/
theorem exists_arrange (width height : Nat) : ∃ pictures : Pictures,
    pictures.Framed width height ∧
      arrange width height .empty =
        .ok (⟨0, 0⟩, ⟨1, 0⟩, ⟨2, 0⟩) (pictures.windows 0 0 0) := by
  obtain ⟨hello, first, sameHello⟩ :=
    exists_writeLine "Hello" (by decide) .pureRed 0 0 (.blank width height)
  obtain ⟨root, second, sameRoot⟩ :=
    exists_writeLine "World" (by decide) .pureGreen 8 8 hello
  obtain ⟨drifting, third, sameDrifting⟩ :=
    exists_writeLine "!!" (by decide) .pureBlue 0 0 (.blank 8 8)
  obtain ⟨scrolling, fourth, sameScrolling⟩ :=
    exists_writeLine "1145" (by decide) .white 0 0 (.blank 16 8)
  have turned : Pixmap.setRotation 90 Flip.none drifting =
      .ok () (drifting.withRotation .quarter Flip.none) := rfl
  have sameText := sameHello.trans sameRoot
  refine ⟨⟨root.setTransparent true, drifting.withRotation .quarter Flip.none, scrolling⟩,
    ⟨?_, ?_, sameScrolling⟩, ?_⟩
  · exact ⟨sameText.orientation, sameText.background, rfl⟩
  · refine ⟨?_, sameDrifting.background, sameDrifting.transparent⟩
    exact congrArg (·.withRotation .quarter Flip.none) sameDrifting.orientation
  · unfold arrange
    refine (Edit.bind_of_ok (Pictures.createWindow_empty width height)).trans ?_
    refine (Edit.bind_of_ok (Pictures.createChild_first 0 0 _ 8 8)).trans ?_
    refine (Edit.bind_of_ok (Pictures.createChild_second 0 0 0 _ _ 16 8)).trans ?_
    refine (Edit.bind_of_ok (Pictures.paint_root _ 0 0 0 (root.setTransparent true) ?_)).trans ?_
    · exact (Edit.bind_of_ok first).trans (Edit.bind_of_ok second)
    refine (Edit.bind_of_ok (Pictures.paint_drifting _ 0 0 0
      (drifting.withRotation .quarter Flip.none) ?_)).trans ?_
    · exact (Edit.bind_of_ok third).trans turned
    exact Edit.bind_of_ok (Pictures.paint_scrolling _ 0 0 0 scrolling fourth)

/-- The demo can be started on a root of any size. -/
theorem exists_new (width height : Nat) : ∃ pictures : Pictures,
    pictures.Framed width height ∧ new width height = .ok (pictures.scene width height 0) := by
  obtain ⟨pictures, framed, ran⟩ := exists_arrange width height
  have begun : pictures.scene width height 0 =
      ⟨pictures.windows 0 0 0, ⟨0, 0⟩, ⟨1, 0⟩, ⟨2, 0⟩⟩ := by
    rw [Pictures.scene, Nat.zero_mod, Nat.zero_mod, Int.ofNat_zero]
  refine ⟨pictures, framed, ?_⟩
  rw [begun]
  unfold new
  -- What the arrangement comes to is known, and is not to be computed.
  generalize arrange width height .empty = outcome at ran ⊢
  rw [ran]

/-! ## Steps -/

/-- Steps one after the other, in each of which every number fits. -/
inductive Steps : Nat → Demo → Demo → Prop
  | none (demo : Demo) : Steps 0 demo demo
  | step {n : Nat} {begun demo next : Demo} (earlier : Steps n begun demo)
      (checked : checkedAdvance? demo = some next) (ran : advance demo = .ok () next) :
      Steps (n + 1) begun next

/-- The scene on a root of the given size after `n` steps. The first window has drifted along the
diagonal and the second one has scrolled along its row, each around the edges of the root. -/
structure IsScene (width height n : Nat) (demo : Demo) : Prop where
  steps : ∃ begun, new width height = .ok begun ∧ Steps n begun demo
  drifting : demo.compositor.position demo.drifting =
    .ok (some ((n % width : Nat), (n % height : Nat)))
  scrolling : demo.compositor.position demo.scrolling = .ok (some ((n % width : Nat), 4))

namespace Pictures

variable {pictures : Pictures} {width height : Nat}

/-- The windows come back to where they were. -/
theorem scene_add_lcm (pictures : Pictures) (width height n : Nat) :
    pictures.scene width height (n + Nat.lcm width height) = pictures.scene width height n := by
  have columns : (n + Nat.lcm width height) % width = n % width := by
    obtain ⟨rounds, total⟩ := Nat.dvd_lcm_left width height
    rw [total, Nat.add_mul_mod_self_left]
  have rows : (n + Nat.lcm width height) % height = n % height := by
    obtain ⟨rounds, total⟩ := Nat.dvd_lcm_right width height
    rw [total, Nat.add_mul_mod_self_left]
  rw [scene, scene, columns, rows]

section Stepping

variable (framed : pictures.Framed width height) (hw : IsAxis width) (hh : IsAxis height)
include framed hw hh

/-- **One step** leads from the scene after `n` steps to the one after `n + 1`, and every number on
the way fits. -/
theorem Framed.checkedAdvance?_scene (n : Nat) :
    checkedAdvance? (pictures.scene width height n) =
      some (pictures.scene width height (n + 1)) := by
  obtain ⟨view, viewed, -, columns, rows, -⟩ := framed.exists_view hw.fits hh.fits
    (n % width : Nat) (n % height : Nat) (n % width : Nat)
  have across : checkedNext? view.width (n % width : Nat) = some ((n + 1) % width : Nat) := by
    rw [columns]
    exact hw.checkedNext?_mod n
  have down : checkedNext? view.height (n % height : Nat) = some ((n + 1) % height : Nat) := by
    rw [rows]
    exact hh.checkedNext?_mod n
  have drifted := Edit.left?_of_ok (pictures.moveWindow_drifting (n % width : Nat)
    (n % height : Nat) (n % width : Nat) ((n + 1) % width : Nat) ((n + 1) % height : Nat))
  have scrolled := Edit.left?_of_ok (pictures.moveWindow_scrolling ((n + 1) % width : Nat)
    ((n + 1) % height : Nat) (n % width : Nat) ((n + 1) % width : Nat))
  simp only [checkedAdvance?, Option.bind_eq_bind, Option.bind_eq_some_iff]
  exact ⟨view, congrArg Except.toOption viewed, _, rfl, _, across, _, down, _, drifted, _, rfl, _,
    across, _, scrolled, rfl⟩

theorem Framed.advance_scene (n : Nat) :
    advance (pictures.scene width height n) = .ok () (pictures.scene width height (n + 1)) :=
  advance_of_checkedAdvance? (framed.checkedAdvance?_scene hw hh n)

/-- **After any number of steps** the windows are where they have to be. -/
theorem Framed.isScene (started : new width height = .ok (pictures.scene width height 0))
    (n : Nat) : IsScene width height n (pictures.scene width height n) := by
  refine ⟨⟨_, started, ?_⟩, pictures.position_drifting _ _ _, pictures.position_scrolling _ _ _⟩
  induction n with
  | zero => exact .none _
  | succ n ih =>
      exact .step ih (framed.checkedAdvance?_scene hw hh n)
        (framed.advance_scene hw hh n)

end Stepping

end Pictures

end Demo

end LedMatrix
