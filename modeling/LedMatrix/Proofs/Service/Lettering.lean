/-
# Lines and their letters

A text or a number is drawn as one line, in which the glyph of a column and the column within
the glyph are worked out by division. Here the line is taken apart: it is a row of letters, each
drawn by itself four columns to the right of the one before, and between two digits of a number
there is a blank column. The letters of a text are its characters, those of a number its digits
(`IsNumeral`).

Where something lands beyond the greatest coordinate there is no corner for it any more. No canvas
reaches so far, so such pieces are left out (`Placed.inReach`). What remains makes up the line
(`Writing.tiles_text`, `Writing.tiles_number`).
-/

import LedMatrix.Proofs.Pixmap.Tiling
import LedMatrix.Proofs.Service.Commands
import Mathlib.Data.List.Induction

namespace LedMatrix

/-! ## Digits of a number -/

/-- A list of digits, the most significant first, is how a number is written: there is at least
one digit, and no zero stands in front of others. -/
structure IsNumeral (digits : List (Fin 10)) (n : Nat) : Prop where
  ne_nil : digits ≠ []
  leading : digits.head? = some 0 → digits = [0]
  value : digits.foldl (fun value digit => 10 * value + digit.val) 0 = n

namespace IsNumeral

variable {digits : List (Fin 10)} {n : Nat}

/-- Reading on never makes the value smaller. -/
theorem le_foldl (digits : List (Fin 10)) (start : Nat) :
    start ≤ digits.foldl (fun value digit => 10 * value + digit.val) start := by
  induction digits generalizing start with
  | nil => exact Nat.le_refl start
  | cons digit rest ih => exact Nat.le_trans (by omega) (ih (10 * start + digit.val))

/-- A digit that has others behind it has a value before it that is not zero. -/
theorem value_pos_of_concat {last : Fin 10} (numeral : IsNumeral (digits ++ [last]) n)
    (more : digits ≠ []) : 0 < digits.foldl (fun value digit => 10 * value + digit.val) 0 := by
  obtain ⟨first, rest, rfl⟩ := List.exists_cons_of_ne_nil more
  have nonzero : first ≠ 0 := by
    rintro rfl
    have alone : 0 :: (rest ++ [last]) = [0] := numeral.leading rfl
    simp at alone
  have positive : 0 < first.val := Nat.pos_of_ne_zero fun zero => nonzero (Fin.ext zero)
  exact Nat.lt_of_lt_of_le (by omega) (le_foldl rest (10 * 0 + first.val))

/-- The digits of a number are those that are drawn. -/
theorem map_val (numeral : IsNumeral digits n) :
    digits.map Fin.val = Lettering.decimalDigits n := by
  have written (digit : Nat) (small : digit < 10) :
      [Nat.digitChar digit].map (fun c => c.toNat - '0'.toNat) = [digit] := by
    rw [List.map_singleton, Nat.toNat_digitChar_of_lt_ten small]
    exact congrArg (fun value => [value]) (Nat.add_sub_cancel_left 48 digit)
  induction digits using List.reverseRecOn generalizing n with
  | nil => exact absurd rfl numeral.ne_nil
  | append_singleton init last ih =>
      have value := numeral.value
      rw [List.foldl_append] at value
      simp only [List.foldl_cons, List.foldl_nil] at value
      rw [List.map_append, Lettering.decimalDigits]
      by_cases alone : init = []
      · subst alone
        have small : n < 10 := by
          have := last.isLt
          simp only [List.foldl_nil] at value
          omega
        rw [Nat.toDigits_of_lt_base small, written n small]
        simpa using value
      · have positive := numeral.value_pos_of_concat alone
        generalize kept : init.foldl (fun value digit => 10 * value + digit.val) 0 = before
          at value positive
        have earlier : IsNumeral init before := by
          refine ⟨alone, fun zero => ?_, kept⟩
          obtain ⟨first, rest, rfl⟩ := List.exists_cons_of_ne_nil alone
          have whole := numeral.leading zero
          simp at whole
        have large : 10 ≤ n := by omega
        have cut : n / 10 = before ∧ n % 10 = last.val := by
          have := last.isLt
          omega
        rw [Nat.toDigits_of_base_le (by decide) large, List.map_append, cut.1, cut.2,
          written last.val last.isLt, ih earlier]
        rfl

/-- Every number has digits. -/
theorem exists_isNumeral (n : Nat) : ∃ digits, IsNumeral digits n := by
  induction n using Nat.strong_induction_on with
  | _ n ih =>
      by_cases small : n < 10
      · refine ⟨[⟨n, small⟩], List.cons_ne_nil _ _, fun zero => ?_, ?_⟩
        · rw [Option.some.inj zero]
        · exact (Nat.zero_add n)
      · obtain ⟨digits, numeral⟩ := ih (n / 10) (by omega)
        refine ⟨digits ++ [⟨n % 10, by omega⟩], by simp, fun zero => ?_, ?_⟩
        · -- A number that begins with a zero is zero, but this one begins like one above zero.
          rw [List.head?_append_of_ne_nil _ numeral.ne_nil] at zero
          have none_before := numeral.value
          rw [numeral.leading zero] at none_before
          simp only [List.foldl_cons, List.foldl_nil, Fin.val_zero] at none_before
          omega
        · rw [List.foldl_append, numeral.value]
          exact Nat.div_add_mod n 10

/-- **A number has one list of digits.** -/
theorem exists_iff_eq (n : Nat) : ∃ digits, ∀ other, IsNumeral other n ↔ other = digits := by
  obtain ⟨digits, numeral⟩ := exists_isNumeral n
  refine ⟨digits, fun other => ⟨fun numeral' => ?_, ?_⟩⟩
  · exact List.map_injective_iff.mpr Fin.val_injective (numeral'.map_val.trans numeral.map_val.symm)
  · rintro rfl
    exact numeral

end IsNumeral

/-! ## Letters in a row -/

/-- The pieces whose corner is a coordinate. -/
def Placed.inReach (pieces : List Placed) : List Placed :=
  pieces.filter fun piece => IsCoordinate piece.x

namespace Writing

/-- The columns from one letter to the next. -/
def pitch : Nat := 4

/-- What is written, as a source with its corner. -/
def placed (writing : Writing) : Placed where
  source := writing.glyph.toSource
  x := writing.x
  y := writing.y

/-- A letter in its place of a line, written by itself in the colours of the line. -/
def letter (line : Writing) (place : Nat) (letter : Lettering) : Writing where
  glyph := { line.glyph with lettering := letter }
  x := line.x + pitch * place
  y := line.y

/-- Letters one after the other, each written by itself. -/
def letters (line : Writing) (letters : List Lettering) : List Writing :=
  letters.mapIdx line.letter

/-- The blank columns between the digits of a number, in the colour of its paper. -/
def separators (line : Writing) (count : Nat) : List Placed :=
  (List.range (count - 1)).map fun place : Nat =>
    { source := ((Pixmap.blank Face.digits.gap Face.digits.height).fill line.glyph.paper).toSource
      x := line.x + pitch * place + Face.digits.width
      y := line.y }

/-- One of the lit cells of what is written lies at a cell of the canvas. -/
def Lights (writing : Writing) (column row : Nat) : Prop :=
  let face := writing.glyph.lettering.face
  ∃ bitmap ∈ writing.glyph.lettering.bitmaps, ∃ across down : Nat,
    across < face.width ∧ down < face.height ∧ (column : Int) = writing.x + across ∧
      (row : Int) = writing.y + down ∧ face.isLit bitmap across down = true

end Writing

namespace Lettering

/-- In both faces a letter begins as many columns behind the one before it. -/
theorem pitch_eq (lettering : Lettering) :
    lettering.face.width + lettering.face.gap = Writing.pitch := by
  cases lettering <;> rfl

/-- Something written is spelled with these letters: each has one bitmap, and together they have
its bitmaps. -/
structure IsSpelled (lettering : Lettering) (letters : List Lettering) : Prop where
  face : ∀ letter ∈ letters, letter.face = lettering.face
  fits : ∀ letter ∈ letters, letter.Fits
  bitmaps : letters.map bitmaps = lettering.bitmaps.map fun bitmap => [bitmap]

theorem isSpelled_text (s : String) : (text s).IsSpelled (s.toList.map character) where
  face letter member := by
    obtain ⟨c, -, rfl⟩ := List.mem_map.mp member
    rfl
  fits letter member := by
    obtain ⟨c, -, rfl⟩ := List.mem_map.mp member
    trivial
  bitmaps := by
    rw [bitmaps, List.map_map, List.map_map]
    rfl

theorem isSpelled_number {digits : List (Fin 10)} {n : Nat} (numeral : IsNumeral digits n) :
    (number n).IsSpelled (digits.map digit) where
  face letter member := by
    obtain ⟨d, -, rfl⟩ := List.mem_map.mp member
    rfl
  fits letter member := by
    obtain ⟨d, -, rfl⟩ := List.mem_map.mp member
    trivial
  bitmaps := by
    rw [bitmaps, ← numeral.map_val, List.map_map, List.map_map, List.map_map]
    rfl

namespace IsSpelled

variable {lettering : Lettering} {letters : List Lettering}

theorem length_eq (spelled : lettering.IsSpelled letters) :
    letters.length = lettering.bitmaps.length := by
  have lengths := congrArg List.length spelled.bitmaps
  rwa [List.length_map, List.length_map] at lengths

/-- A letter shows the bitmap at its place. -/
theorem bitmaps_getElem (spelled : lettering.IsSpelled letters) {place : Nat}
    (inside : place < letters.length) (listed : place < lettering.bitmaps.length) :
    letters[place].bitmaps = [lettering.bitmaps[place]] := by
  have same := List.getElem_of_eq spelled.bitmaps (i := place) (by rwa [List.length_map])
  rwa [List.getElem_map, List.getElem_map] at same

end IsSpelled

end Lettering

namespace Glyph

variable {face : Face} {bitmaps : List Nat} {place column : Nat}

/-- Within a letter of a line a cell is lit if it is lit in the letter's bitmap. -/
theorem isLit_of_lt (inside : place < bitmaps.length) (within : column < face.width) (row : Nat) :
    isLit face bitmaps.toArray ((face.width + face.gap) * place + column) row =
      face.isLit bitmaps[place] column row := by
  have room : column < face.width + face.gap := by omega
  have positive : 0 < face.width + face.gap := Nat.zero_lt_of_lt room
  simp [isLit, Nat.mul_add_div positive, Nat.div_eq_of_lt room, Nat.mod_eq_of_lt room, within,
    inside]

/-- A letter by itself is a line of one bitmap. -/
theorem isLit_singleton (bitmap : Nat) (within : column < face.width) (row : Nat) :
    isLit face [bitmap].toArray column row = face.isLit bitmap column row := by
  have first : (face.width + face.gap) * 0 + column = column := Nat.zero_add column
  have inside : 0 < [bitmap].length := Nat.zero_lt_one
  have lit := isLit_of_lt inside within row
  rwa [first] at lit

/-- Between the letters of a line nothing is lit. -/
theorem isLit_of_le (bitmaps : List Nat) (place : Nat) (beyond : face.width ≤ column)
    (within : column < face.width + face.gap) (row : Nat) :
    isLit face bitmaps.toArray ((face.width + face.gap) * place + column) row = false := by
  simp [isLit, Nat.mod_eq_of_lt within, beyond]

/-- A line of one letter is as wide as the letter. -/
theorem lineWidth_one (face : Face) : lineWidth face 1 = face.width := by
  rw [lineWidth, Nat.one_mul, Nat.add_sub_cancel]

end Glyph

namespace Writing

/-- Where something is written the ink shows at lit cells, and else the paper. -/
theorem seenAt_placed {writing : Writing} {column row : Nat} {color : Color} :
    writing.placed.seenAt column row = some color ↔
      ∃ across down : Nat, (column : Int) = writing.x + across ∧ (row : Int) = writing.y + down ∧
        across < Glyph.lineWidth writing.glyph.lettering.face
          writing.glyph.lettering.bitmaps.length ∧
        down < writing.glyph.lettering.face.height ∧
        (if Glyph.isLit writing.glyph.lettering.face writing.glyph.lettering.bitmaps.toArray
            across down then writing.glyph.ink else writing.glyph.paper) = color := by
  have colored {across down : Nat} (hx : across < writing.glyph.toSource.width)
      (hy : down < writing.glyph.toSource.height) :
      writing.glyph.toSource.colorAt across down =
        if Glyph.isLit writing.glyph.lettering.face writing.glyph.lettering.bitmaps.toArray
          across down then writing.glyph.ink else writing.glyph.paper := by
    rw [Source.colorAt, Glyph.pixel_toSource_of_lt writing.glyph hx hy]
    rfl
  rw [Placed.seenAt_eq_some]
  constructor
  · rintro ⟨across, down, hx, hy, right, below, rfl⟩
    exact ⟨across, down, hx, hy, right, below, (colored right below).symm⟩
  · rintro ⟨across, down, hx, hy, right, below, rfl⟩
    exact ⟨across, down, hx, hy, right, below, colored right below⟩

section Spelled

variable {line : Writing} {letters : List Lettering}
  (spelled : line.glyph.lettering.IsSpelled letters) {column row : Nat} {color : Color}
include spelled

/-- What a letter shows is decided by its own bitmap. -/
theorem seenAt_letter {place : Nat} (inside : place < letters.length)
    (listed : place < line.glyph.lettering.bitmaps.length) :
    (line.letter place letters[place]).placed.seenAt column row = some color ↔
      ∃ across down : Nat, (column : Int) = line.x + pitch * place + across ∧
        (row : Int) = line.y + down ∧ across < line.glyph.lettering.face.width ∧
        down < line.glyph.lettering.face.height ∧
        (if line.glyph.lettering.face.isLit line.glyph.lettering.bitmaps[place] across down
          then line.glyph.ink else line.glyph.paper) = color := by
  have face : letters[place].face = line.glyph.lettering.face :=
    spelled.face _ (List.getElem_mem inside)
  have lit {across : Nat} (within : across < line.glyph.lettering.face.width) (down : Nat) :=
    Glyph.isLit_singleton line.glyph.lettering.bitmaps[place] within down
  rw [seenAt_placed]
  simp only [letter, face, spelled.bitmaps_getElem inside listed, List.length_singleton,
    Glyph.lineWidth_one]
  constructor
  · rintro ⟨across, down, hx, hy, right, below, shows⟩
    exact ⟨across, down, hx, hy, right, below, by rwa [lit right] at shows⟩
  · rintro ⟨across, down, hx, hy, right, below, shows⟩
    exact ⟨across, down, hx, hy, right, below, by rwa [lit right]⟩

/-- What a letter shows is what the line shows there. -/
theorem seenAt_of_letter {letter : Writing} (member : letter ∈ line.letters letters)
    (seen : letter.placed.seenAt column row = some color) :
    line.placed.seenAt column row = some color := by
  obtain ⟨place, inside, rfl⟩ := List.mem_mapIdx.mp member
  have listed := inside.trans_eq spelled.length_eq
  obtain ⟨across, down, hx, hy, right, below, shows⟩ :=
    (seenAt_letter spelled inside listed).mp seen
  have step := line.glyph.lettering.pitch_eq
  have lit := Glyph.isLit_of_lt listed right down
  rw [step] at lit
  refine seenAt_placed.mpr ⟨pitch * place + across, down, by omega, hy, ?_, below, by rwa [lit]⟩
  rw [Glyph.lineWidth, step]
  unfold pitch at step ⊢
  omega

/-- What a line shows is shown by one of its letters, or it is the paper between two of them. -/
theorem letter_or_between (seen : line.placed.seenAt column row = some color) :
    (∃ letter ∈ line.letters letters, letter.placed.seenAt column row = some color) ∨
      (color = line.glyph.paper ∧ ∃ place across down : Nat, place + 1 < letters.length ∧
        across < line.glyph.lettering.face.gap ∧ down < line.glyph.lettering.face.height ∧
        (column : Int) = line.x + pitch * place + line.glyph.lettering.face.width + across ∧
        (row : Int) = line.y + down) := by
  obtain ⟨across, down, hx, hy, right, below, shows⟩ := seenAt_placed.mp seen
  have step := line.glyph.lettering.pitch_eq
  have cut : pitch * (across / pitch) + across % pitch = across := Nat.div_add_mod across pitch
  rw [Glyph.lineWidth, step, ← spelled.length_eq] at right
  by_cases within : across % pitch < line.glyph.lettering.face.width
  · have inside : across / pitch < letters.length := by
      unfold pitch at right ⊢
      omega
    have listed := inside.trans_eq spelled.length_eq
    have lit := Glyph.isLit_of_lt listed within down
    rw [step, cut] at lit
    rw [lit] at shows
    refine .inl ⟨_, List.mem_mapIdx.mpr ⟨across / pitch, inside, rfl⟩, ?_⟩
    exact (seenAt_letter spelled inside listed).mpr
      ⟨across % pitch, down, by omega, hy, within, below, shows⟩
  · have room :
        across % pitch < line.glyph.lettering.face.width + line.glyph.lettering.face.gap := by
      rw [step]
      exact Nat.mod_lt across (by decide)
    have unlit := Glyph.isLit_of_le line.glyph.lettering.bitmaps (across / pitch)
      (Nat.not_lt.mp within) room down
    rw [step, cut] at unlit
    rw [unlit] at shows
    refine .inr ⟨shows.symm, across / pitch,
      across % pitch - line.glyph.lettering.face.width, down, ?_, by omega, below, by omega, hy⟩
    unfold pitch at right within step ⊢
    omega

/-- Which cells of a letter are lit is decided by its own bitmap. -/
theorem lights_letter {place : Nat} (inside : place < letters.length)
    (listed : place < line.glyph.lettering.bitmaps.length) :
    (line.letter place letters[place]).Lights column row ↔
      ∃ across down : Nat, across < line.glyph.lettering.face.width ∧
        down < line.glyph.lettering.face.height ∧
        (column : Int) = line.x + pitch * place + across ∧ (row : Int) = line.y + down ∧
        line.glyph.lettering.face.isLit line.glyph.lettering.bitmaps[place] across down =
          true := by
  simp only [Lights, letter, spelled.bitmaps_getElem inside listed,
    spelled.face _ (List.getElem_mem inside), List.mem_singleton, exists_eq_left]

/-- A lit cell of a letter shows the ink. -/
theorem seenAt_of_lights {letter : Writing} (member : letter ∈ line.letters letters)
    (lights : letter.Lights column row) :
    letter.placed.seenAt column row = some line.glyph.ink := by
  obtain ⟨place, inside, rfl⟩ := List.mem_mapIdx.mp member
  have listed := inside.trans_eq spelled.length_eq
  obtain ⟨across, down, right, below, hx, hy, lit⟩ :=
    (lights_letter spelled inside listed).mp lights
  exact (seenAt_letter spelled inside listed).mpr ⟨across, down, hx, hy, right, below, if_pos lit⟩

/-- Where a letter shows something else than the paper one of its cells is lit. -/
theorem lights_of_seenAt {letter : Writing} (member : letter ∈ line.letters letters)
    (seen : letter.placed.seenAt column row = some color) (colored : color ≠ line.glyph.paper) :
    letter.Lights column row := by
  obtain ⟨place, inside, rfl⟩ := List.mem_mapIdx.mp member
  have listed := inside.trans_eq spelled.length_eq
  obtain ⟨across, down, hx, hy, right, below, shows⟩ :=
    (seenAt_letter spelled inside listed).mp seen
  split at shows
  · next lit =>
      exact (lights_letter spelled inside listed).mpr ⟨across, down, right, below, hx, hy, lit⟩
  · exact absurd shows.symm colored

/-- The letters and what stands between them make up the line on a picture of a size that fits. -/
theorem tiles_line {p : Pixmap} (width : p.width < lengthLimit) (hx : IsCoordinate line.x)
    {between : List Placed} (readable : ∀ piece ∈ between, piece.source.Readable)
    (behind : ∀ piece ∈ between, line.x ≤ piece.x)
    (part : ∀ piece ∈ between, ∀ column row color, piece.seenAt column row = some color →
      line.placed.seenAt column row = some color)
    (gap : ∀ place across down : Nat, place + 1 < letters.length →
      across < line.glyph.lettering.face.gap → down < line.glyph.lettering.face.height →
      ∀ column row : Nat,
        (column : Int) = line.x + pitch * place + line.glyph.lettering.face.width + across →
        (row : Int) = line.y + down →
        (∃ piece ∈ between, piece.seenAt column row = some line.glyph.paper) ∨
          (p.transparent = true ∧ line.glyph.paper = p.background)) :
    p.Tiles (Placed.inReach ((line.letters letters).map placed ++ between)) line.placed := by
  have behind' : ∀ piece ∈ (line.letters letters).map placed ++ between, line.x ≤ piece.x := by
    intro piece member
    rcases List.mem_append.mp member with lettered | separating
    · obtain ⟨_, listed, rfl⟩ := List.mem_map.mp lettered
      obtain ⟨place, inside, rfl⟩ := List.mem_mapIdx.mp listed
      exact Int.le_add_of_nonneg_right (Int.natCast_nonneg (pitch * place))
    · exact behind piece separating
  -- A piece that shows something on the picture has its corner to the left of that.
  have reached {piece : Placed} (member : piece ∈ (line.letters letters).map placed ++ between)
      {column row : Nat} (inside : column < p.width) {color : Color}
      (seen : piece.seenAt column row = some color) :
      piece ∈ Placed.inReach ((line.letters letters).map placed ++ between) := by
    obtain ⟨across, -, lands, -⟩ := Placed.seenAt_eq_some.mp seen
    have left := behind' piece member
    obtain ⟨low, -⟩ := hx
    refine List.mem_filter.mpr ⟨member, decide_eq_true ⟨?_, ?_⟩⟩ <;> omega
  constructor
  · intro piece member
    rcases List.mem_append.mp (List.mem_of_mem_filter member) with lettered | separating
    · obtain ⟨_, listed, rfl⟩ := List.mem_map.mp lettered
      obtain ⟨place, inside, rfl⟩ := List.mem_mapIdx.mp listed
      exact Glyph.readable_toSource (spelled.fits _ (List.getElem_mem inside))
    · exact readable piece separating
  · intro piece member column row _ _ color seen
    rcases List.mem_append.mp (List.mem_of_mem_filter member) with lettered | separating
    · obtain ⟨letter, listed, rfl⟩ := List.mem_map.mp lettered
      exact seenAt_of_letter spelled listed seen
    · exact part piece separating column row color seen
  · intro column row inside _ color seen
    rcases letter_or_between spelled seen with
      ⟨letter, listed, shows⟩ | ⟨rfl, place, across, down, more, right, below, hc, hr⟩
    · have member := List.mem_append_left between (List.mem_map_of_mem (f := placed) listed)
      exact .inl ⟨letter.placed, reached member inside shows, shows⟩
    · rcases gap place across down more right below column row hc hr with
        ⟨piece, listed, shows⟩ | through
      · exact .inl ⟨piece, reached (List.mem_append_right _ listed) inside shows, shows⟩
      · exact .inr through

end Spelled

/-- The characters of a text make up the text. -/
theorem tiles_text {p : Pixmap} (width : p.width < lengthLimit) {x : Int} (hx : IsCoordinate x)
    (y : Int) (text : String) (ink paper : Color) :
    p.Tiles (Placed.inReach (((Writing.text x y text ink paper).letters
        (text.toList.map .character)).map placed))
      (Writing.text x y text ink paper).placed := by
  have tiles : p.Tiles (Placed.inReach (((Writing.text x y text ink paper).letters
      (text.toList.map .character)).map placed ++ [])) (Writing.text x y text ink paper).placed :=
    tiles_line (Lettering.isSpelled_text text) width hx (List.forall_mem_nil _)
      (List.forall_mem_nil _) (List.forall_mem_nil _)
      fun _ across _ _ none_between => absurd none_between (Nat.not_lt_zero across)
  rwa [List.append_nil] at tiles

/-- A blank column can be read and shows the paper. -/
theorem colorAt_separator (paper : Color) {across down : Nat} (hx : across < Face.digits.gap)
    (hy : down < Face.digits.height) :
    ((Pixmap.blank Face.digits.gap Face.digits.height).fill paper).toSource.colorAt across down =
      paper := by
  let column := (Pixmap.blank Face.digits.gap Face.digits.height).fill paper
  have inside : across < column.width ∧ down < column.height := ⟨hx, hy⟩
  have physical := column.orientation.physical_lt inside.1 inside.2
  rw [column.colorAt_toSource inside.1 inside.2, Pixmap.colorAt_eq_shown]
  exact Pixmap.shown_fill _ paper physical.1 physical.2

/-- The blank columns show the paper behind every digit but the last one. -/
theorem exists_separator_iff {line : Writing} {count column row : Nat} {color : Color} :
    (∃ piece ∈ line.separators count, piece.seenAt column row = some color) ↔
      ∃ place across down : Nat, place + 1 < count ∧ across < Face.digits.gap ∧
        down < Face.digits.height ∧
        (column : Int) = line.x + pitch * place + Face.digits.width + across ∧
        (row : Int) = line.y + down ∧ line.glyph.paper = color := by
  constructor
  · rintro ⟨_, member, seen⟩
    obtain ⟨place, listed, rfl⟩ := List.mem_map.mp member
    have more := List.mem_range.mp listed
    obtain ⟨across, down, hc, hr, right, below, rfl⟩ := Placed.seenAt_eq_some.mp seen
    exact ⟨place, across, down, by omega, right, below, hc, hr,
      (colorAt_separator line.glyph.paper right below).symm⟩
  · rintro ⟨place, across, down, more, right, below, hc, hr, rfl⟩
    have listed : place < count - 1 := by omega
    exact ⟨_, List.mem_map.mpr ⟨place, List.mem_range.mpr listed, rfl⟩, Placed.seenAt_eq_some.mpr
      ⟨across, down, hc, hr, right, below, colorAt_separator line.glyph.paper right below⟩⟩

/-- Between two digits a number shows its paper. -/
theorem seenAt_between {line : Writing} {digits : List Lettering}
    (spelled : line.glyph.lettering.IsSpelled digits) {place across down column row : Nat}
    (more : place + 1 < digits.length) (right : across < line.glyph.lettering.face.gap)
    (below : down < line.glyph.lettering.face.height)
    (hc : (column : Int) =
      line.x + pitch * place + line.glyph.lettering.face.width + across)
    (hr : (row : Int) = line.y + down) :
    line.placed.seenAt column row = some line.glyph.paper := by
  have unlit := Glyph.isLit_of_le line.glyph.lettering.bitmaps place
    (Nat.le_add_right line.glyph.lettering.face.width across) (Nat.add_lt_add_left right _) down
  have step := line.glyph.lettering.pitch_eq
  rw [step] at unlit
  refine seenAt_placed.mpr ⟨pitch * place + (line.glyph.lettering.face.width + across), down, ?_,
    hr, ?_, below, ?_⟩
  · omega
  · rw [Glyph.lineWidth, step, ← spelled.length_eq]
    unfold pitch at step ⊢
    omega
  · rw [unlit]
    rfl

/-- The digits of a number make up the number, with the blank columns between them unless the
picture lets the paper through. -/
theorem tiles_number {p : Pixmap} (width : p.width < lengthLimit) {x : Int} (hx : IsCoordinate x)
    (y : Int) {digits : List (Fin 10)} {n : Nat} (numeral : IsNumeral digits n) (ink : Color) :
    p.Tiles (Placed.inReach (((Writing.number x y n ink p.background).letters
          (digits.map .digit)).map placed ++
        if p.transparent then []
        else (Writing.number x y n ink p.background).separators digits.length))
      (Writing.number x y n ink p.background).placed := by
  have spelled : (Writing.number x y n ink p.background).glyph.lettering.IsSpelled
      (digits.map .digit) := Lettering.isSpelled_number numeral
  have length : (digits.map Lettering.digit).length = digits.length := List.length_map _
  cases see : p.transparent with
  | true =>
      exact tiles_line spelled width hx (List.forall_mem_nil _) (List.forall_mem_nil _)
        (List.forall_mem_nil _) fun _ _ _ _ _ _ _ _ _ _ => .inr ⟨see, rfl⟩
  | false =>
      refine tiles_line spelled width hx ?_ ?_ ?_ ?_
      · intro piece member
        obtain ⟨place, -, rfl⟩ := List.mem_map.mp member
        exact Pixmap.readable_toSource _ (show 1 < lengthLimit by decide)
          (show 5 < lengthLimit by decide)
      · intro piece member
        obtain ⟨place, -, rfl⟩ := List.mem_map.mp member
        have step : (0 : Int) ≤ pitch * place := Int.natCast_nonneg (pitch * place)
        show x ≤ x + pitch * place + Face.digits.width
        omega
      · intro piece member column row color seen
        obtain ⟨place, across, down, more, right, below, hc, hr, rfl⟩ :=
          exists_separator_iff.mp ⟨piece, member, seen⟩
        exact seenAt_between spelled (by rwa [length]) right below hc hr
      · intro place across down more right below column row hc hr
        rw [length] at more
        exact .inl (exists_separator_iff.mpr
          ⟨place, across, down, more, right, below, hc, hr, rfl⟩)

/-! ## One text after the other -/

/-- The letters of the second of two parts follow those of the first. -/
theorem letters_append (line : Writing) (first second : List Lettering) :
    line.letters (first ++ second) = line.letters first ++
      ({ line with x := line.x + pitch * first.length } : Writing).letters second := by
  have shifted : (fun place => line.letter (place + first.length)) =
      ({ line with x := line.x + pitch * first.length } : Writing).letter := by
    funext place one
    have corner : line.x + (pitch : Int) * ((place + first.length : Nat) : Int) =
        line.x + pitch * first.length + pitch * place := by
      rw [Int.natCast_add, Int.mul_add, Int.add_assoc, Int.add_comm (pitch * (place : Int))]
    rw [letter, letter, corner]
  rw [letters, List.mapIdx_append, shifted]
  rfl

/-- Behind a corner that is out of reach no letter is in reach. -/
theorem inReach_letters_of_beyond {line : Writing} (beyond : (lengthLimit : Int) ≤ line.x)
    (letters : List Lettering) : Placed.inReach ((line.letters letters).map placed) = [] := by
  refine List.filter_eq_nil_iff.mpr fun piece member => ?_
  obtain ⟨_, listed, rfl⟩ := List.mem_map.mp member
  obtain ⟨place, inside, rfl⟩ := List.mem_mapIdx.mp listed
  have step : (0 : Int) ≤ pitch * place := Int.natCast_nonneg (pitch * place)
  rw [decide_eq_true_eq]
  rintro ⟨-, near⟩
  have : line.x + pitch * place < lengthLimit := near
  omega

/-- **Two texts are written one after the other like one text.** If there is no corner for the
second one, it leaves no trace. -/
theorem draw_text_append {p : Pixmap} (width : p.width < lengthLimit) {x : Int}
    (hx : IsCoordinate x) (y : Int) {first second : String}
    (short : (first ++ second).length < Lettering.textLimit) (ink paper : Color) :
    ∃ middle q, (text x y first ink paper).placed.draw p = .ok () middle ∧
      Pixmap.SameFrame p middle ∧
      (text x y (first ++ second) ink paper).placed.draw p = .ok () q ∧
      if IsCoordinate (x + pitch * first.length) then
        (text (x + pitch * first.length) y second ink paper).placed.draw middle = .ok () q
      else q = middle := by
  rw [String.length_append] at short
  have fits {s : String} (less : s.length ≤ first.length + second.length) :
      (Lettering.text s).Fits := Nat.lt_of_le_of_lt less short
  have readable {s : String} (less : s.length ≤ first.length + second.length) (x : Int) :
      (text x y s ink paper).placed.source.Readable := Glyph.readable_toSource (fits less)
  have whole : (first ++ second).length ≤ first.length + second.length := by
    rw [String.length_append]
  obtain ⟨middle, begun, frame, -⟩ :=
    Pixmap.draw_eq (readable (Nat.le_add_right _ second.length) x) x y Flip.none p
  obtain ⟨q, drawn, -, -⟩ := Pixmap.draw_eq (readable whole x) x y Flip.none p
  refine ⟨middle, q, begun, frame, drawn, ?_⟩
  -- The letters of the two texts, drawn one after the other, are the letters of the whole.
  let earlier := Placed.inReach (((text x y first ink paper).letters
    (first.toList.map .character)).map placed)
  let rest := Placed.inReach (((text (x + pitch * first.length) y second ink paper).letters
    (second.toList.map .character)).map placed)
  have parts : Placed.inReach (((text x y (first ++ second) ink paper).letters
      ((first ++ second).toList.map .character)).map placed) = earlier ++ rest := by
    have count : (first.toList.map Lettering.character).length = first.length := by
      rw [List.length_map, String.length_toList]
    rw [String.toList_append, List.map_append, letters_append, count, List.map_append,
      Placed.inReach, List.filter_append]
    rfl
  have ran : rest.forM Placed.draw middle = .ok () q := by
    have letters := (tiles_text width hx y (first ++ second) ink paper).forM_draw (readable whole x)
      (List.Perm.refl _)
    have letters' := (tiles_text width hx y first ink paper).forM_draw
      (readable (Nat.le_add_right _ second.length) x) (List.Perm.refl _)
    have joined : (earlier ++ rest).forM Placed.draw p = rest.forM Placed.draw middle := by
      have split : (earlier ++ rest).forM Placed.draw =
          (earlier.forM Placed.draw >>= fun _ => rest.forM Placed.draw) := List.forM_append
      rw [split, Edit.bind_of_ok (letters'.trans begun)]
    rw [parts, joined] at letters
    exact letters.trans drawn
  split
  · next near =>
      have tiles := tiles_text (p := middle) (by rwa [frame.width_eq]) near y second ink paper
      have drawnRest :=
        tiles.forM_draw (readable (Nat.le_add_left _ first.length) _) (List.Perm.refl _)
      exact drawnRest.symm.trans ran
  · next far =>
      have beyond : (lengthLimit : Int) ≤ x + pitch * first.length := by
        have step : (0 : Int) ≤ pitch * first.length := Int.natCast_nonneg (pitch * first.length)
        obtain ⟨low, -⟩ := hx
        unfold IsCoordinate at far
        omega
      have nothing : rest = [] := inReach_letters_of_beyond beyond _
      rw [nothing] at ran
      obtain ⟨-, rfl⟩ := EStateM.Result.ok.inj ran
      rfl

end Writing

end LedMatrix
