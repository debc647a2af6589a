/-
# Playing the demo

A frame clears the strip, takes one step of the scene, paints the root over the whole strip and
shows the result. A see-through strip refuses the cells of its own background colour, and it has
just been cleared to that colour, so the picture is the root and nothing else
(`Pixmap.exists_draw_clear`).

`IsPlayed` says what a strip is like after a number of frames, `exists_showFrame` is one frame, and
`exists_isPlayed` the run. `run_exact` puts them together for every strip with a driver that only
records.
-/

import LedMatrix.Proofs.Demo.Scene
import LedMatrix.Proofs.Pixmap.Clearing
import LedMatrix.Proofs.Strip.Frames

namespace LedMatrix

/-! ## One more frame on a strip -/

namespace Strip

/-- The strip after it has shown a picture. -/
def showing (strip : Strip Headless) (picture : Pixmap) : Strip Headless :=
  { strip with
    picture
    driver := { strip.driver with
      lastFrame := picture.memory
      frames := strip.driver.frames + 1 } }

variable {config : StripConfig} {strip : Strip Headless} {picture : Pixmap}

/-- Another picture in the same frame lies on the same panel. -/
theorem OnPanel.repainted (panel : OnPanel config strip)
    (frame : Pixmap.SameFrame strip.picture picture) : OnPanel config { strip with picture } := by
  have grid := Orientation.SameGrid.of_eq frame.orientation
  exact ⟨panel.config_eq, grid.layout.trans panel.layout,
    grid.physicalWidth.trans panel.physicalWidth,
    grid.physicalHeight.trans panel.physicalHeight, panel.driver⟩

/-- A strip that has shown a picture of its own frame is ready for the next one. -/
theorem OnPanel.showing (panel : OnPanel config strip)
    (frame : Pixmap.SameFrame strip.picture picture) : OnPanel config (strip.showing picture) := by
  have repainted := panel.repainted frame
  refine ⟨repainted.config_eq, repainted.layout, repainted.physicalWidth, repainted.physicalHeight,
    fun initialized => ?_⟩
  obtain ⟨running, length, -⟩ := panel.driver initialized
  exact ⟨running, length, repainted.size_leds⟩

end Strip

namespace Demo

/-- A picture shows the scene: each of its cells has the colour that the root has there, with all
that lies on it. It has been laid where it belongs without a number that does not fit. -/
structure Shows (demo : Demo) (picture : Pixmap) : Prop where
  cell : ∀ x y : Nat, x < picture.width → y < picture.height →
    ∃ color, demo.compositor.pixel demo.root x y = .ok color ∧ picture.pixel x y = .ok color
  place : ∃ view, demo.compositor.view demo.root = .ok view ∧
    ∀ x y : Nat, x < picture.width → y < picture.height →
      picture.checkedTarget? view 0 0 Flip.none (x, y) =
        some (some (picture.orientation.index x y))

/-- A picture of the size of the root with the colours that are read there shows the scene. -/
theorem Shows.of_view {demo : Demo} {view : Source} {picture : Pixmap}
    (viewed : demo.compositor.view demo.root = .ok view) (readable : view.Readable)
    (pixel : view.pixel = demo.compositor.pixel demo.root) (width : view.width = picture.width)
    (height : view.height = picture.height)
    (colors : ∀ x y, x < picture.width → y < picture.height →
      picture.colorAt x y = view.colorAt x y) : demo.Shows picture where
  cell x y hx hy := by
    refine ⟨view.colorAt x y, ?_, ?_⟩
    · rw [← pixel]
      exact readable.pixel_eq (by rwa [width]) (by rwa [height])
    · rw [picture.pixel_of_lt hx hy, colors x y hx hy]
  place := by
    refine ⟨view, viewed, fun x y hx hy => ?_⟩
    have lands : view.LandsAt 0 0 Flip.none (x, y) (x, y) :=
      ⟨by rwa [width], by rwa [height], (Int.zero_add _).symm, (Int.zero_add _).symm⟩
    exact Pixmap.checkedTarget?_of_landsAt (width ▸ readable.width_lt) (height ▸ readable.height_lt)
      readable (by decide) (by decide) hx hy lands

/-- Two pictures in one frame that show the same scene are the same. -/
theorem Shows.unique {demo : Demo} {p q : Pixmap} (shows : demo.Shows p) (shows' : demo.Shows q)
    (frame : Pixmap.SameFrame p q) : q = p := by
  apply frame.eq_of_colorAt
  intro x y hx hy
  obtain ⟨color, seen, here⟩ := shows.cell x y hx hy
  obtain ⟨color', seen', there⟩ := shows'.cell x y (by rwa [frame.width_eq])
    (by rwa [frame.height_eq])
  obtain rfl : color = color' := Except.ok.inj (seen.symm.trans seen')
  rw [p.pixel_of_lt hx hy] at here
  rw [frame.pixel_of_lt hx hy] at there
  exact Except.ok.inj (there.trans here.symm)

/-- What a strip is like after `n` frames, the last of which shows the given scene: the driver has
taken the frames, and nothing else has changed but the picture. -/
structure IsPlayed (strip : Strip Headless) (n : Nat) (demo : Demo) (left : Strip Headless) :
    Prop where
  kept : left = { strip with
    picture := left.picture
    driver := { strip.driver with
      frames := strip.driver.frames + n
      lastFrame := left.driver.lastFrame } }
  frame : Pixmap.SameFrame strip.picture left.picture
  unbegun : n = 0 → left = strip
  shown : 0 < n → demo.Shows left.picture ∧ left.driver.lastFrame = left.leds

namespace IsPlayed

variable {strip left : Strip Headless} {n : Nat} {demo : Demo}

theorem zero (strip : Strip Headless) (demo : Demo) : IsPlayed strip 0 demo strip where
  kept := rfl
  frame := .refl strip.picture
  unbegun _ := rfl
  shown begun := absurd begun (Nat.lt_irrefl 0)

/-- One more frame. -/
theorem showing (played : IsPlayed strip n demo left) {next : Demo} {picture : Pixmap}
    (frame : Pixmap.SameFrame left.picture picture) (shows : next.Shows picture) :
    IsPlayed strip (n + 1) next (left.showing picture) where
  kept := by
    rw [Strip.showing, played.kept]
    rfl
  frame := played.frame.trans frame
  unbegun nothing := absurd nothing (Nat.succ_ne_zero n)
  shown _ := ⟨shows, rfl⟩

/-- Frames that show the same scene are the same. -/
theorem frame_eq (played : IsPlayed strip n demo left) {later : Strip Headless} {m : Nat}
    (played' : IsPlayed strip m demo later) (begun : 0 < n) (begun' : 0 < m) :
    later.picture = left.picture ∧ later.driver.lastFrame = left.driver.lastFrame := by
  obtain ⟨shows, taken⟩ := played.shown begun
  obtain ⟨shows', taken'⟩ := played'.shown begun'
  have same : later.picture = left.picture :=
    shows.unique shows' (played.frame.symm.trans played'.frame)
  refine ⟨same, ?_⟩
  rw [taken, taken', Strip.leds, Strip.leds, same]

end IsPlayed

end Demo

namespace Playback

variable {δ : Type}

theorem onStrip_of_ok {α : Type} {edit : Edit (Strip δ) α} {strip left : Strip δ} {value : α}
    (ran : edit strip = .ok value left) (demo : Demo) :
    onStrip edit { demo, strip } = .ok value { demo, strip := left } := by
  rw [onStrip, ran]

theorem onDemo_of_ok {α : Type} {step : Demo.Step Demo α} {demo next : Demo} {value : α}
    (ran : step demo = .ok value next) (strip : Strip δ) :
    onDemo step { demo, strip } = .ok value { demo := next, strip } := by
  rw [onDemo, ran]

/-- A frame is composed of the next scene and what it shows over the cleared strip. -/
theorem frame_of_ok {demo next : Demo} {strip : Strip δ} {view : Source} {picture : Pixmap}
    (ran : Demo.advance demo = .ok () next)
    (viewed : next.compositor.view next.root = .ok view)
    (drawn : Pixmap.draw view 0 0 Flip.none strip.picture.clear = .ok () picture) :
    frame { demo, strip } = .ok () { demo := next, strip := { strip with picture } } := by
  let bare : Strip δ := { strip with picture := strip.picture.clear }
  have cleared : Strip.paint (modify Pixmap.clear) strip = .ok () bare := rfl
  have painted : Strip.paint (Pixmap.draw view 0 0 Flip.none) bare =
      .ok () { strip with picture } := by
    rw [Strip.paint, Edit.within, drawn]
  unfold frame
  refine (Demo.Step.bind_of_ok (onStrip_of_ok cleared demo)).trans ?_
  refine (Demo.Step.bind_of_ok (onDemo_of_ok ran bare)).trans ?_
  refine (Demo.Step.bind_of_ok rfl).trans ?_
  refine (Demo.Step.bind_of_ok (Demo.Step.attempt_of_ok viewed _)).trans ?_
  exact onStrip_of_ok painted next

variable [StripDriver δ]

theorem showFrame_of_ok {playback composed shown : Playback δ}
    (ran : frame playback = .ok () composed)
    (rendered : onStrip Strip.render composed = .ok () shown) :
    showFrame playback = (.ok (), shown) := by
  rw [showFrame, ran]
  dsimp only
  rw [rendered]

theorem play_of_lt {maxFrames shown : Nat} {playback next : Playback δ} (more : shown < maxFrames)
    (ran : playback.showFrame = (.ok (), next)) :
    playback.play maxFrames shown = next.play maxFrames (shown + 1) := by
  rw [play, if_pos more, ran]

theorem play_self (shown : Nat) (playback : Playback δ) :
    playback.play shown shown = (.ok shown, playback) := by
  rw [play, if_neg (Nat.lt_irrefl shown)]

end Playback

namespace Demo

/-! ## The run -/

section Playing

variable {config : StripConfig} {pictures : Pictures} {strip : Strip Headless}
  (framed : pictures.Framed strip.width strip.height) (hw : IsAxis strip.width)
  (hh : IsAxis strip.height) (initialized : strip.initialized = true)
include framed hw hh initialized

/-- **One frame** is shown, whatever the strip shows before. -/
theorem exists_showFrame {n : Nat} {left : Strip Headless} (panel : left.OnPanel config)
    (played : IsPlayed strip n (pictures.scene strip.width strip.height n) left) :
    ∃ next, Playback.showFrame ⟨pictures.scene strip.width strip.height n, left⟩ =
        (.ok (), ⟨pictures.scene strip.width strip.height (n + 1), next⟩) ∧
      next.OnPanel config ∧
      IsPlayed strip (n + 1) (pictures.scene strip.width strip.height (n + 1)) next := by
  have width : left.picture.width = strip.width := played.frame.width_eq
  have height : left.picture.height = strip.height := played.frame.height_eq
  obtain ⟨view, viewed, readable, columns, rows, pixel⟩ := framed.exists_view hw.fits hh.fits
    ((n + 1) % strip.width : Nat) ((n + 1) % strip.height : Nat) ((n + 1) % strip.width : Nat)
  obtain ⟨picture, drawn, frame, colors⟩ := Pixmap.exists_draw_clear readable
    (columns.trans width.symm) (rows.trans height.symm)
  have composed := Playback.frame_of_ok (framed.advance_scene hw hh n) viewed drawn
  have running : left.initialized = true := by
    rw [played.kept]
    exact initialized
  have rendered := Playback.onStrip_of_ok ((panel.repainted frame).render_eq running)
    (pictures.scene strip.width strip.height (n + 1))
  refine ⟨left.showing picture, Playback.showFrame_of_ok composed rendered, panel.showing frame,
    played.showing frame ?_⟩
  refine .of_view viewed readable pixel ?_ ?_ ?_
  · rw [columns, frame.width_eq, width]
  · rw [rows, frame.height_eq, height]
  · intro x y hx hy
    exact colors x y (by rwa [← frame.width_eq]) (by rwa [← frame.height_eq])

/-- **After any number of frames.** Every run that shows so many comes through the same scene and
the same strip. -/
theorem exists_isPlayed (panel : strip.OnPanel config) (n : Nat) :
    ∃ left : Strip Headless, left.OnPanel config ∧
      IsPlayed strip n (pictures.scene strip.width strip.height n) left ∧
      ∀ m, n ≤ m →
        Playback.play m 0 ⟨pictures.scene strip.width strip.height 0, strip⟩ =
          Playback.play m n ⟨pictures.scene strip.width strip.height n, left⟩ := by
  induction n with
  | zero => exact ⟨strip, panel, .zero strip _, fun m _ => rfl⟩
  | succ n ih =>
      obtain ⟨left, panel', played, passes⟩ := ih
      obtain ⟨next, ran, panel'', played'⟩ :=
        exists_showFrame framed hw hh initialized panel' played
      refine ⟨next, panel'', played', fun m more => ?_⟩
      rw [passes m (Nat.le_of_succ_le more), Playback.play_of_lt more ran]

end Playing

theorem start_of_new {δ : Type} [StripDriver δ] {strip : Strip δ} {demo : Demo}
    (started : new strip.width strip.height = .ok demo) : start strip = .ok ⟨demo, strip⟩ := by
  unfold start
  generalize new strip.width strip.height = outcome at started ⊢
  rw [started]

theorem run_of_play {δ : Type} [StripDriver δ] {strip left : Strip δ} {begun : Playback δ}
    {demo : Demo} {n : Nat} (started : start strip = .ok begun)
    (played : begun.play n 0 = (.ok n, ⟨demo, left⟩)) : run n strip = (.ok n, left) := by
  unfold run
  generalize start strip = outcome at started ⊢
  rw [started]
  dsimp only
  rw [played]

/-- **The frames of the demo are exact.** Take any strip with a driver that only records, after any
run of requests: with any contents, however it is turned, whatever its background and whether or not
it is see-through. If it is initialised and each side has a cell and no more cells than signed
32-bit numbers can count, then the demo starts, and for every `n` there are a scene and a strip, the
same in all runs that show at least `n` frames. The scene has come about by `n` steps in which every
number fits, with its two windows at `n` along the diagonal and along the row, around the edges. A
run of `n` frames tells of `n` frames and leaves this strip: its driver has taken `n` frames more
and nothing but the picture has changed. The last frame is the picture, and each of its cells has
the colour of the root of the scene. After as many more frames as it takes the windows to come back
the same frame is shown. -/
theorem run_exact (config : StripConfig) (driver : Headless) (requests : List Strip.Request) :
    let strip := Strip.serveAll requests (Strip.new config driver)
    strip.initialized = true → 0 < strip.width → strip.width < lengthLimit →
      0 < strip.height → strip.height < lengthLimit →
    ∃ begun, start strip = .ok begun ∧ ∀ n, ∃ demo left,
      IsScene strip.width strip.height n demo ∧ IsPlayed strip n demo left ∧
      run n strip = (.ok n, left) ∧
      (∀ m, n ≤ m → begun.play m 0 = Playback.play m n { demo, strip := left }) ∧
      (0 < n → ∃ later,
        run (n + Nat.lcm strip.width strip.height) strip =
          (.ok (n + Nat.lcm strip.width strip.height), later) ∧
        later.picture = left.picture ∧ later.driver.lastFrame = left.driver.lastFrame) := by
  intro strip initialized nonempty fits nonempty' fits'
  have width : IsAxis strip.width := ⟨nonempty, fits⟩
  have height : IsAxis strip.height := ⟨nonempty', fits'⟩
  have panel : strip.OnPanel config := (Strip.onPanel_new config driver).serveAll requests
  obtain ⟨pictures, framed, started⟩ := exists_new strip.width strip.height
  have begun := start_of_new started
  -- Where a run ends is where the longer ones come through.
  have ended {n : Nat} {left : Strip Headless}
      (passes : ∀ m, n ≤ m →
        Playback.play m 0 ⟨pictures.scene strip.width strip.height 0, strip⟩ =
          Playback.play m n ⟨pictures.scene strip.width strip.height n, left⟩) :
      run n strip = (.ok n, left) :=
    run_of_play begun ((passes n (Nat.le_refl n)).trans (Playback.play_self n _))
  refine ⟨_, begun, fun n => ?_⟩
  obtain ⟨left, -, played, passes⟩ :=
    exists_isPlayed framed width height initialized panel n
  refine ⟨_, left, framed.isScene width height started n, played, ended passes, passes,
    fun positive => ?_⟩
  obtain ⟨later, -, played', passes'⟩ := exists_isPlayed framed width height initialized panel
    (n + Nat.lcm strip.width strip.height)
  refine ⟨later, ended passes', ?_⟩
  rw [pictures.scene_add_lcm] at played'
  exact played.frame_eq played' positive (Nat.add_pos_left positive _)

/-- A panel of five by three cells, turned by a quarter, see-through and red all over, with one
frame shown already. After seven more the first window has gone around the edges twice in one
direction and once in the other. -/
theorem run_exact_turned :
    let requests : List Strip.Request := [.init,
      .configure { rotation := .quarter, background := .pureBlue, transparent := true },
      .canvas (.fill .pureRed), .render]
    let strip := Strip.serveAll requests (Strip.new { width := 5, height := 3 } {})
    strip.initialized = true ∧ strip.width = 3 ∧ strip.height = 5 ∧
      ∃ (demo : Demo) (left later : Strip Headless),
        run 7 strip = (.ok 7, left) ∧ run 22 strip = (.ok 22, later) ∧
        demo.compositor.position demo.drifting = .ok (some (1, 2)) ∧
        demo.compositor.position demo.scrolling = .ok (some (1, 4)) ∧
        demo.Shows left.picture ∧ left.driver.frames = 8 ∧
        later.driver.lastFrame = left.driver.lastFrame := by
  intro requests strip
  have initialized : strip.initialized = true := by decide
  have width : strip.width = 3 := by decide
  have height : strip.height = 5 := by decide
  have before : strip.driver.frames = 1 := by decide
  obtain ⟨begun, -, law⟩ := run_exact { width := 5, height := 3 } {} requests initialized
    (by decide) (by decide) (by decide) (by decide)
  obtain ⟨demo, left, scene, played, ran, -, period⟩ := law 7
  obtain ⟨later, ran', -, same⟩ := period (by decide)
  have total : 7 + Nat.lcm strip.width strip.height = 22 := by rw [width, height]; rfl
  have frames : left.driver.frames = strip.driver.frames + 7 := by rw [played.kept]
  have drifting := scene.drifting
  have scrolling := scene.scrolling
  rw [width, height] at drifting
  rw [width] at scrolling
  exact ⟨initialized, width, height, demo, left, later, ran, total ▸ ran', drifting, scrolling,
    (played.shown (by decide)).1, by rw [frames, before], same⟩

end Demo

end LedMatrix
