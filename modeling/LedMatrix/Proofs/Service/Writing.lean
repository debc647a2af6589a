/-
# Writing letter by letter

The two commands that write on a canvas put down a whole line at once. They might as well put
down its letters one at a time and in any order: the strip is left the same
(`SharedCanvas.DrawsAs`). The letters that would begin beyond the greatest coordinate cannot be
asked for and would not be seen; they are left out on both sides.

On a see-through canvas that lends its own background to the line nothing but the lit cells of
the letters is written (`SharedCanvas.InksOnly`). A lit cell still lets the old colour through if
the ink itself is the background.
-/

import LedMatrix.Proofs.Service.Lettering

namespace LedMatrix

/-- Laying pieces on the strip one after the other is laying them on its picture. -/
theorem Strip.forM_paint {δ : Type} (pieces : List Placed) (strip : Strip δ) :
    (pieces.forM fun piece => Strip.paint piece.draw) strip =
      Strip.paint (pieces.forM Placed.draw) strip := by
  induction pieces generalizing strip with
  | nil => rfl
  | cons piece rest ih =>
      cases drawn : piece.draw strip.picture with
      | ok answer picture =>
          have painted : Strip.paint piece.draw strip = .ok answer { strip with picture } := by
            rw [Strip.paint, Edit.within, drawn]
          refine (Edit.bind_of_ok painted).trans ((ih _).trans ?_)
          have onward : (piece :: rest).forM Placed.draw strip.picture =
              rest.forM Placed.draw picture := Edit.bind_of_ok drawn
          rw [Strip.paint, Edit.within, Strip.paint, Edit.within, onward]
      | error cause picture =>
          have failed : Strip.paint piece.draw strip = .error cause { strip with picture } := by
            rw [Strip.paint, Edit.within, drawn]
          refine (Edit.bind_of_error failed).trans ?_
          have ended : (piece :: rest).forM Placed.draw strip.picture = .error cause picture :=
            Edit.bind_of_error drawn
          rw [Strip.paint, Edit.within, ended]

namespace SharedCanvas

variable {δ : Type} [StripDriver δ]

/-- A command is carried out and leaves behind what drawing the pieces leaves behind, in whatever
order they are drawn. -/
def DrawsAs (canvas : SharedCanvas δ) (command : Command) (pieces : List Placed) : Prop :=
  ∀ order : List Placed, order.Perm pieces → ∃ strip,
    (order.forM fun piece => Strip.paint piece.draw) canvas.strip = .ok () strip ∧
      canvas.execute command = (.done, { canvas with strip })

/-- A command writes the lit cells of the letters and no others. -/
structure InksOnly (canvas : SharedCanvas δ) (command : Command) (ink : Color)
    (letters : List Writing) : Prop where
  frame : Pixmap.SameFrame canvas.strip.picture (canvas.execute command).2.strip.picture
  unlit : ∀ column row, column < canvas.strip.width → row < canvas.strip.height →
    (∀ letter ∈ letters, ¬ letter.Lights column row) →
      (canvas.execute command).2.strip.picture.colorAt column row =
        canvas.strip.picture.colorAt column row
  lit : ∀ column row, column < canvas.strip.width → row < canvas.strip.height →
    ∀ letter ∈ letters, letter.Lights column row →
      (canvas.execute command).2.strip.picture.colorAt column row =
        if ink = canvas.strip.picture.background then canvas.strip.picture.colorAt column row
        else ink

section Line

variable {canvas : SharedCanvas δ} (command : Command) {line : Writing}
  (task : command.task canvas.strip.picture.background = .paint line.action)
include task

/-- A command that writes a line leaves behind what drawing the line leaves behind. -/
theorem execute_of_task {picture : Pixmap}
    (drawn : line.placed.draw canvas.strip.picture = .ok () picture) :
    canvas.execute command =
      (.done, { canvas with strip := { canvas.strip with picture } }) := by
  have settled : canvas.execute command =
      canvas.settlePicture (line.placed.draw canvas.strip.picture) := by
    rw [execute_eq, task]
    rfl
  rw [settled, drawn]
  rfl

/-- A line is written by drawing pieces that make it up. -/
theorem drawsAs_of_tiles {pieces : List Placed} (fits : line.glyph.lettering.Fits)
    (tiles : canvas.strip.picture.Tiles pieces line.placed) : canvas.DrawsAs command pieces := by
  intro order reordered
  have readable : line.placed.source.Readable := Glyph.readable_toSource fits
  obtain ⟨picture, drawn, -, -⟩ :=
    Pixmap.draw_eq readable line.x line.y Flip.none canvas.strip.picture
  have drawn' : line.placed.draw canvas.strip.picture = .ok () picture := drawn
  refine ⟨_, ?_, execute_of_task command task drawn'⟩
  rw [Strip.forM_paint, Strip.paint, Edit.within, tiles.forM_draw readable reordered, drawn']

/-- On a see-through canvas a line on the background of the canvas writes the lit cells of its
letters. -/
theorem inksOnly_of_isSpelled {letters : List Lettering} (fits : line.glyph.lettering.Fits)
    (spelled : line.glyph.lettering.IsSpelled letters)
    (transparent : canvas.strip.picture.transparent = true)
    (paper : line.glyph.paper = canvas.strip.picture.background) :
    canvas.InksOnly command line.glyph.ink (line.letters letters) := by
  obtain ⟨picture, drawn, frame, colors⟩ := Pixmap.draw_eq
    (Glyph.readable_toSource fits) line.x line.y Flip.none canvas.strip.picture
  have left : (canvas.execute command).2.strip.picture = picture := by
    rw [execute_of_task command task drawn]
  constructor
  · rwa [left]
  · intro column row hx hy unlit
    rw [left, colors column row hx hy]
    cases seen : line.placed.seenAt column row with
    | none => exact congrArg _ seen
    | some color =>
        have blank : color = canvas.strip.picture.background := by
          rcases Writing.letter_or_between spelled seen with ⟨letter, member, shows⟩ | ⟨between, -⟩
          · by_contra colored
            rw [← paper] at colored
            exact unlit letter member (Writing.lights_of_seenAt spelled member shows colored)
          · exact between.trans paper
        exact (congrArg _ seen).trans (if_pos ⟨transparent, blank⟩)
  · intro column row hx hy letter member lights
    have seen : line.placed.seenAt column row = some line.glyph.ink :=
      Writing.seenAt_of_letter spelled member (Writing.seenAt_of_lights spelled member lights)
    rw [left, colors column row hx hy]
    refine (congrArg _ seen).trans ?_
    simp only [Pixmap.under, transparent, true_and]

end Line

/-- **Lines are written letter by letter.** Take a canvas whose picture is not wider than
coordinates reach, in any state, and a corner with coordinates of 32 bits. Writing a text is
drawing its characters, each four columns to the right of the one before, as far as there are
coordinates for them, in any order, on the background given or else that of the canvas. Writing
a number is drawing its digits likewise, and the blank columns between them if the canvas is not
see-through. So two texts are written one after the other like one text, where the second one is
left out if there is no corner for it, and a see-through canvas that lends its background has
nothing but lit cells written. -/
theorem writing_decomposes (canvas : SharedCanvas δ) (width : canvas.strip.width < lengthLimit)
    {x : Int} (hx : IsCoordinate x) (y : Int) (ink : Color) :
    let background := canvas.strip.picture.background
    let transparent := canvas.strip.picture.transparent
    (∀ (s : String) (paper : Option Color), s.length < Lettering.textLimit →
      let line := Writing.text x y s ink (paper.getD background)
      let letters := line.letters (s.toList.map .character)
      canvas.DrawsAs (.drawText x y s ink paper) (Placed.inReach (letters.map Writing.placed)) ∧
      (transparent = true → paper = none →
        canvas.InksOnly (.drawText x y s ink paper) ink letters)) ∧
    (∀ number ≤ Json.Numeral.maxWord, ∃ digits,
      (∀ other, IsNumeral other number ↔ other = digits) ∧
      let line := Writing.number x y number ink background
      let letters := line.letters (digits.map .digit)
      canvas.DrawsAs (.drawNumber x y number ink) (Placed.inReach (letters.map Writing.placed ++
        if transparent then [] else line.separators digits.length)) ∧
      (transparent = true → canvas.InksOnly (.drawNumber x y number ink) ink letters)) ∧
    ∀ (first second : String) (paper : Option Color),
      (first ++ second).length < Lettering.textLimit →
      let next := x + Writing.pitch * first.length
      let begun := (canvas.execute (.drawText x y first ink paper)).2
      canvas.execute (.drawText x y (first ++ second) ink paper) =
        if IsCoordinate next then begun.execute (.drawText next y second ink paper)
        else (.done, begun) := by
  intro background transparent
  refine ⟨?_, ?_, ?_⟩
  · intro s paper short line letters
    have fits : line.glyph.lettering.Fits := short
    refine ⟨drawsAs_of_tiles _ rfl fits (Writing.tiles_text width hx y s ink _), ?_⟩
    rintro through rfl
    exact inksOnly_of_isSpelled _ rfl fits (Lettering.isSpelled_text s) through rfl
  · intro number word
    obtain ⟨digits, only⟩ := IsNumeral.exists_iff_eq number
    have numeral : IsNumeral digits number := (only digits).mpr rfl
    refine ⟨digits, only, ?_⟩
    intro line letters
    have fits : line.glyph.lettering.Fits := word
    refine ⟨drawsAs_of_tiles _ rfl fits (Writing.tiles_number width hx y numeral ink), ?_⟩
    intro through
    exact inksOnly_of_isSpelled _ rfl fits (Lettering.isSpelled_number numeral) through rfl
  · intro first second paper short next begun
    obtain ⟨middle, picture, drawn, frame, whole, rest⟩ :=
      Writing.draw_text_append width hx y short ink (paper.getD background)
    have begun_eq : begun = { canvas with strip := { canvas.strip with picture := middle } } :=
      congrArg Prod.snd (execute_of_task (.drawText x y first ink paper) rfl drawn)
    rw [execute_of_task (.drawText x y (first ++ second) ink paper) rfl whole]
    split at rest
    · next near =>
        have same : begun.strip.picture.background = background := by
          rw [begun_eq]
          exact frame.background
        have onward : (Writing.text next y second ink
            (paper.getD begun.strip.picture.background)).placed.draw begun.strip.picture =
              .ok () picture := by
          rw [same, begun_eq]
          exact rest
        rw [if_pos near, execute_of_task (.drawText next y second ink paper) rfl onward,
          begun_eq]
    · next far => rw [if_neg far, begun_eq, rest]

/-- A see-through canvas of four by three cells is turned by a quarter. A text begins to the left
of it and ends on it, and a number is drawn over that. -/
theorem writing_decomposes_turned :
    let start : SharedCanvas Headless := { strip := Strip.new { width := 4, height := 3 } {} }
    let canvas := takeAll
      [.command (.setTransparent true), .command (.setRotate 90 false false)] start
    let line := Writing.text (-2) 1 "é1" .pureRed .black
    canvas.strip.width < lengthLimit ∧ IsCoordinate (-2) ∧ "é1".length < Lettering.textLimit ∧
      canvas.DrawsAs (.drawText (-2) 1 "é1" .pureRed none)
        (Placed.inReach ((line.letters ("é1".toList.map .character)).map Writing.placed)) ∧
      (∃ digits, IsNumeral digits 10 ∧ canvas.InksOnly (.drawNumber (-2) 1 10 .pureRed) .pureRed
        ((Writing.number (-2) 1 10 .pureRed .black).letters (digits.map .digit))) ∧
      canvas.execute (.drawText (-2) 1 ("é" ++ "1") .pureRed none) =
        (canvas.execute (.drawText (-2) 1 "é" .pureRed none)).2.execute
          (.drawText 2 1 "1" .pureRed none) := by
  intro start canvas line
  have width : canvas.strip.width < lengthLimit := by decide
  have corner : IsCoordinate (-2) := by decide
  have short : "é1".length < Lettering.textLimit := by decide
  obtain ⟨texts, numbers, joined⟩ := writing_decomposes canvas width corner 1 .pureRed
  obtain ⟨digits, only, -, inked⟩ := numbers 10 (by decide)
  have following := joined "é" "1" none (by decide)
  have next : (-2 : Int) + Writing.pitch * "é".length = 2 := by decide
  rw [next] at following
  exact ⟨width, corner, short, (texts "é1" none short).1,
    ⟨digits, (only digits).mpr rfl, inked rfl⟩,
    following.trans (if_pos (by decide))⟩

end SharedCanvas

end LedMatrix
