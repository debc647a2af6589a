/-
# Lines of a connection

The server takes a stream in reads that it finds as it goes. Seen from the stream, a
read is a line as long as no line is too long: `serve_lines` goes through any number
of such lines at once and leaves what the server does with the rest of the stream.
What it does with a line is `answerLine`, which knows nothing of bytes and reads.
-/

import LedMatrix.Proofs.Text.Utf8
import LedMatrix.Server
import LedMatrix.Text.Pieces

namespace LedMatrix.Server

/-! ## Reads -/

/-- A read takes something as long as there is something. -/
theorem firstRead_ne_nil {stream : List UInt8} (nonempty : stream ≠ []) :
    firstRead stream ≠ [] := by
  have positive := List.length_pos_iff.mpr nonempty
  refine List.ne_nil_of_length_pos ?_
  rw [firstRead, List.length_take]
  omega

theorem readsWithin_succ {stream : List UInt8} (nonempty : stream ≠ []) (rounds : Nat) :
    readsWithin (rounds + 1) stream =
      firstRead stream :: readsWithin rounds (stream.drop (firstRead stream).length) := by
  obtain ⟨byte, bytes, rfl⟩ := List.exists_cons_of_ne_nil nonempty
  rfl

/-- Rounds that are left over change nothing. -/
theorem readsWithin_congr {rounds rounds' : Nat} {stream : List UInt8}
    (enough : stream.length ≤ rounds) (enough' : stream.length ≤ rounds') :
    readsWithin rounds stream = readsWithin rounds' stream := by
  induction rounds generalizing rounds' stream with
  | zero =>
      obtain rfl := List.eq_nil_of_length_eq_zero (Nat.le_zero.mp enough)
      cases rounds' <;> rfl
  | succ rounds ih =>
      by_cases empty : stream = []
      · subst empty
        cases rounds' <;> rfl
      · have taken := List.length_pos_iff.mpr (firstRead_ne_nil empty)
        have shorter : (stream.drop (firstRead stream).length).length =
            stream.length - (firstRead stream).length := List.length_drop
        obtain ⟨rest, rfl⟩ : ∃ rest, rounds' = rest + 1 := by
          have := List.length_pos_iff.mpr empty
          exact ⟨rounds' - 1, by omega⟩
        rw [readsWithin_succ empty, readsWithin_succ empty]
        exact congrArg _ (ih (by omega) (by omega))

/-- The reads of a stream that begins with a read. -/
theorem reads_append {read rest : List UInt8} (first : firstRead (read ++ rest) = read)
    (nonempty : read ≠ []) : reads (read ++ rest) = read :: reads rest := by
  have something : read ++ rest ≠ [] := List.append_ne_nil_of_left_ne_nil nonempty rest
  have taken := List.length_pos_iff.mpr nonempty
  obtain ⟨rounds, enough⟩ : ∃ rounds, (read ++ rest).length = rounds + 1 := by
    rw [List.length_append]
    exact ⟨read.length + rest.length - 1, by omega⟩
  rw [reads, enough, readsWithin_succ something, first, List.drop_left]
  rw [List.length_append] at enough
  exact congrArg _ (readsWithin_congr (by omega) (Nat.le_refl _))

theorem flatten_readsWithin {rounds : Nat} {stream : List UInt8}
    (enough : stream.length ≤ rounds) : (readsWithin rounds stream).flatten = stream := by
  induction rounds generalizing stream with
  | zero =>
      obtain rfl := List.eq_nil_of_length_eq_zero (Nat.le_zero.mp enough)
      rfl
  | succ rounds ih =>
      by_cases empty : stream = []
      · subst empty
        rfl
      · have taken := List.length_pos_iff.mpr (firstRead_ne_nil empty)
        have front : firstRead stream <+: stream := List.take_prefix _ stream
        rw [readsWithin_succ empty, List.flatten_cons, ih (by rw [List.length_drop]; omega)]
        exact List.prefix_iff_eq_append.mp front

/-- The reads of a stream make up the stream: no byte is lost and none is read twice. -/
theorem flatten_reads (stream : List UInt8) : (reads stream).flatten = stream :=
  flatten_readsWithin (Nat.le_refl _)

section FirstRead

variable {line : List UInt8} (single : newline ∉ line)
include single

theorem takeWhile_line (rest : List UInt8) :
    (line ++ rest).takeWhile (· ≠ newline) = line ++ rest.takeWhile (· ≠ newline) := by
  refine List.takeWhile_append_of_pos fun byte member => decide_eq_true ?_
  rintro rfl
  exact single member

/-- A line that is not too long is read with its end. -/
theorem firstRead_line (fits : line.length ≤ maxRequest) (rest : List UInt8) :
    firstRead (line ++ newline :: rest) = line ++ [newline] := by
  have alone : (newline :: rest).takeWhile (· ≠ newline) = [] := by
    rw [List.takeWhile_cons_of_neg (by simp)]
  rw [firstRead, takeWhile_line single, alone, List.append_nil, Nat.min_eq_left (by omega),
    List.take_length_add_append, List.take_one]
  rfl

/-- A line that is too long is cut off. -/
theorem firstRead_of_long (long : maxRequest < line.length) (rest : List UInt8) :
    firstRead (line ++ rest) = line.take (maxRequest + 1) := by
  rw [firstRead, takeWhile_line single, List.length_append, Nat.min_eq_right (by omega),
    List.take_append_of_le_length long]

end FirstRead

/-! ## Turns -/

section Connections

variable {δ : Type} [StripDriver δ] [Json.Placing Command]

section Serve

variable {read rest : List UInt8} (first : firstRead (read ++ rest) = read) (nonempty : read ≠ [])
  {canvas : SharedCanvas δ}
include first nonempty

/-- After a read that is not the last one the rest of the stream is served. -/
theorem serve_append (goesOn : (turn read canvas).isLast = false) :
    serve (read ++ rest) canvas =
      ((turn read canvas).response.toList ++ (serve rest (turn read canvas).canvas).1,
        (serve rest (turn read canvas).canvas).2) := by
  rw [serve, reads_append first nonempty, converse, goesOn]
  rfl

/-- After the last read nothing of the stream counts. -/
theorem serve_of_isLast (ends : (turn read canvas).isLast = true) :
    serve (read ++ rest) canvas =
      ((turn read canvas).response.toList, (turn read canvas).canvas) := by
  rw [serve, reads_append first nonempty, converse, ends]
  rfl

end Serve

/-- What becomes of a line. A blank one is passed over. -/
def answerLine (line : List Char) (canvas : SharedCanvas δ) : Option Response × SharedCanvas δ :=
  match Text.trimmed line with
  | [] => (none, canvas)
  | request =>
      let (response, canvas) := answer (String.ofList request) canvas
      (some response, canvas)

/-- What becomes of lines, one after the other. -/
def answerLines : List (List Char) → SharedCanvas δ → List Response × SharedCanvas δ
  | [], canvas => ([], canvas)
  | line :: rest, canvas =>
      let (response, canvas) := answerLine line canvas
      let (responses, canvas) := answerLines rest canvas
      (response.toList ++ responses, canvas)

theorem answerLines_cons (line : List Char) (rest : List (List Char)) (canvas : SharedCanvas δ) :
    answerLines (line :: rest) canvas =
      ((answerLine line canvas).1.toList ++ (answerLines rest (answerLine line canvas).2).1,
        (answerLines rest (answerLine line canvas).2).2) := rfl

/-- Lines after other lines are answered on the canvas that those leave. -/
theorem answerLines_append (earlier later : List (List Char)) (canvas : SharedCanvas δ) :
    answerLines (earlier ++ later) canvas =
      ((answerLines earlier canvas).1 ++ (answerLines later (answerLines earlier canvas).2).1,
        (answerLines later (answerLines earlier canvas).2).2) := by
  induction earlier generalizing canvas with
  | nil => rfl
  | cons line rest ih =>
      rw [List.cons_append, answerLines_cons, answerLines_cons, ih, List.append_assoc]

/-- A read that holds a whole text is treated as a line. -/
theorem turn_encode {text : List Char} (whole : isCutOff (Text.encode text) = false)
    (canvas : SharedCanvas δ) :
    turn (Text.encode text) canvas =
      { response := (answerLine text canvas).1, canvas := (answerLine text canvas).2,
        isLast := false } := by
  rw [turn, Text.ofUtf8_encode]
  simp only [whole, Bool.false_eq_true, if_false, String.toList_ofList, answerLine]
  cases Text.trimmed text <;> rfl

/-- The end of a line is no part of the request. -/
theorem answerLine_newline (line : List Char) (canvas : SharedCanvas δ) :
    answerLine (line ++ ['\n']) canvas = answerLine line canvas := by
  rw [answerLine, answerLine, Text.trimmed_concat_of_isBlank rfl]

/-- A line that is not too long is answered, and then the rest of the stream is
served. -/
theorem serve_line {line : List Char} (single : '\n' ∉ line)
    (fits : (Text.encode line).length ≤ maxRequest) (rest : List UInt8) (canvas : SharedCanvas δ) :
    serve (Text.encode (line ++ ['\n']) ++ rest) canvas =
      ((answerLine line canvas).1.toList ++ (serve rest (answerLine line canvas).2).1,
        (serve rest (answerLine line canvas).2).2) := by
  have bytes : Text.encode (line ++ ['\n']) = Text.encode line ++ [newline] := by
    rw [Text.encode_append, Text.encode_newline]
    rfl
  have first : firstRead (Text.encode (line ++ ['\n']) ++ rest) = Text.encode (line ++ ['\n']) := by
    rw [bytes, List.append_assoc]
    exact firstRead_line (Text.newline_notMem_encode single) fits rest
  have nonempty : Text.encode (line ++ ['\n']) ≠ [] := by
    rw [bytes]
    exact List.concat_ne_nil _ _
  have whole : isCutOff (Text.encode (line ++ ['\n'])) = false := by
    rw [isCutOff, bytes, List.getLast?_concat]
    simp
  have turned := turn_encode whole canvas
  rw [answerLine_newline] at turned
  rw [serve_append first nonempty (by rw [turned]), turned]

/-- Lines that are not too long are answered one after the other, and then the rest of
the stream is served. -/
theorem serve_lines {lines : List (List Char)} (single : ∀ line ∈ lines, '\n' ∉ line)
    (fit : ∀ line ∈ lines, (Text.encode line).length ≤ maxRequest) (rest : List UInt8)
    (canvas : SharedCanvas δ) :
    serve (Text.encode (lines.flatMap (· ++ ['\n'])) ++ rest) canvas =
      ((answerLines lines canvas).1 ++ (serve rest (answerLines lines canvas).2).1,
        (serve rest (answerLines lines canvas).2).2) := by
  induction lines generalizing canvas with
  | nil => rfl
  | cons line lines ih =>
      obtain ⟨line_single, lines_single⟩ := List.forall_mem_cons.mp single
      obtain ⟨line_fits, lines_fit⟩ := List.forall_mem_cons.mp fit
      rw [List.flatMap_cons, Text.encode_append, List.append_assoc,
        serve_line line_single line_fits, ih lines_single lines_fit, answerLines,
        List.append_assoc]

end Connections

/-! ## A connection to look at -/

/-- A dark strip that nobody has touched. -/
def dark : SharedCanvas Headless := { strip := Strip.new { width := 4, height := 4 } {} }

/-- A reader that is at the end of a text of one line when it meets a fault. -/
@[reducible] def atEnd : Json.Placing Command where
  place? text _ := some { line := 1, column := text.utf8ByteSize }

/-- A request for the width. -/
def query : List Char := "\x7b\"cmd\":\"width\"\x7d".toList

end LedMatrix.Server
