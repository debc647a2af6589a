/-
# Requests that are too long

A request of more than `maxRequest` bytes is to be answered by a refusal that ends
the connection. The read that meets such a request stops one byte beyond the limit,
whatever stands there. What becomes of it depends on the characters of the request
(`serve_of_long_line`): if a character ends with that byte, the refusal is sent; if a
character goes on beyond it, the read is no text, and the connection ends without a
word. Either way the requests before are answered, and nothing of the long one or of
what follows is carried out.

`straddling_unanswered` is a request of the second kind. The refusal is owed to it as
well, so this is a fault of the server and not a choice.
-/

import LedMatrix.Proofs.Server.Lines

namespace LedMatrix.Server

/-! ## The read that is cut off -/

/-- The bytes of a line that is too long, up to where it is cut off. -/
def cutOff (line : List Char) : List UInt8 := (Text.encode line).take (maxRequest + 1)

section CutOff

variable {line : List Char} (tooLong : maxRequest < (Text.encode line).length)
include tooLong

theorem length_cutOff : (cutOff line).length = maxRequest + 1 :=
  List.length_take_of_le tooLong

/-- A line that is too long is noticed, since its end is not among the bytes read. -/
theorem isCutOff_cutOff (single : '\n' ∉ line) : isCutOff (cutOff line) = true := by
  have ended : (cutOff line).getLast? ≠ some newline := fun last =>
    Text.newline_notMem_encode single (List.mem_of_mem_take (List.mem_of_getLast? last))
  have length := length_cutOff tooLong
  simp [isCutOff, ended, length]

variable {δ : Type} [StripDriver δ] [Json.Placing Command]

/-- If a character ends at the limit, the refusal is the answer. -/
theorem turn_cutOff_of_cutBetween (single : '\n' ∉ line)
    (between : Text.CutBetween line (maxRequest + 1)) (canvas : SharedCanvas δ) :
    turn (cutOff line) canvas = { response := some oversized, canvas, isLast := true } := by
  obtain ⟨text, read⟩ := Option.isSome_iff_exists.mp (Text.ofUtf8_take_of_cutBetween between)
  rw [turn, cutOff, read]
  dsimp only
  rw [← cutOff, if_pos (isCutOff_cutOff tooLong single)]

/-- If a character goes on beyond the limit, there is no answer. -/
theorem turn_cutOff_of_not_cutBetween (within : ¬ Text.CutBetween line (maxRequest + 1))
    (canvas : SharedCanvas δ) :
    turn (cutOff line) canvas = { response := none, canvas, isLast := true } := by
  rw [turn, cutOff, Text.ofUtf8_take_of_not_cutBetween tooLong within]

/-- A stream that begins with a line that is too long is served by the one read that
is cut off. -/
theorem serve_cutOff (single : '\n' ∉ line) (rest : List UInt8) {canvas : SharedCanvas δ}
    (ends : (turn (cutOff line) canvas).isLast = true) :
    serve (Text.encode line ++ rest) canvas =
      ((turn (cutOff line) canvas).response.toList, (turn (cutOff line) canvas).canvas) := by
  have stream : Text.encode line ++ rest =
      cutOff line ++ ((Text.encode line).drop (maxRequest + 1) ++ rest) := by
    rw [cutOff, ← List.append_assoc, List.take_append_drop]
  have first : firstRead (Text.encode line ++ rest) = cutOff line :=
    firstRead_of_long (Text.newline_notMem_encode single) tooLong rest
  have nonempty : cutOff line ≠ [] := by
    refine List.ne_nil_of_length_pos ?_
    rw [length_cutOff tooLong]
    exact Nat.succ_pos _
  rw [stream] at first ⊢
  exact serve_of_isLast first nonempty ends

end CutOff

/-! ## The whole stream -/

section Stream

variable {δ : Type} [StripDriver δ] [Json.Placing Command]
variable {text : String} {earlier later : List (List Char)} {long : List Char}
  (lines : Text.piecesAt '\n' text.toList = earlier ++ long :: later)
  (fit : ∀ line ∈ earlier, (Text.encode line).length ≤ maxRequest)
  (tooLong : maxRequest < (Text.encode long).length)
include lines fit tooLong

/-- Up to the first line that is too long the lines are answered one after the other.
That line decides about the end. -/
theorem serve_up_to_long_line (canvas : SharedCanvas δ) :
    '\n' ∉ long ∧ ∃ rest, serve (Text.toUtf8 text) canvas =
      ((answerLines earlier canvas).1 ++
          (serve (Text.encode long ++ rest) (answerLines earlier canvas).2).1,
        (serve (Text.encode long ++ rest) (answerLines earlier canvas).2).2) := by
  obtain ⟨earlier_single, stream, whole, cut⟩ := Text.of_piecesAt_eq_append lines
  obtain ⟨single, ends⟩ := Text.of_piecesAt_eq_cons cut
  obtain ⟨rest, bytes⟩ : ∃ rest, Text.encode stream = Text.encode long ++ rest := by
    rcases ends with ⟨-, rfl⟩ | ⟨after, rfl, -⟩
    · exact ⟨[], (List.append_nil _).symm⟩
    · exact ⟨Text.encode ('\n' :: after), Text.encode_append long _⟩
  refine ⟨single, rest, ?_⟩
  rw [Text.toUtf8_eq_encode, whole, Text.encode_append, bytes]
  exact serve_lines earlier_single fit _ canvas

theorem serve_of_cutBetween (between : Text.CutBetween long (maxRequest + 1))
    (canvas : SharedCanvas δ) :
    serve (Text.toUtf8 text) canvas =
      ((answerLines earlier canvas).1 ++ [oversized], (answerLines earlier canvas).2) := by
  obtain ⟨single, rest, served⟩ := serve_up_to_long_line lines fit tooLong canvas
  have turned := turn_cutOff_of_cutBetween tooLong single between (answerLines earlier canvas).2
  rw [served, serve_cutOff tooLong single rest (by rw [turned]), turned]
  rfl

theorem serve_of_not_cutBetween (within : ¬ Text.CutBetween long (maxRequest + 1))
    (canvas : SharedCanvas δ) :
    serve (Text.toUtf8 text) canvas = answerLines earlier canvas := by
  obtain ⟨single, rest, served⟩ := serve_up_to_long_line lines fit tooLong canvas
  have turned := turn_cutOff_of_not_cutBetween tooLong within (answerLines earlier canvas).2
  rw [served, serve_cutOff tooLong single rest (by rw [turned]), turned]
  exact Prod.ext (List.append_nil _) rfl

/-- **What becomes of a request that is too long.** The lines before the first one that
is too long are answered, and nothing of it or of what follows reaches the canvas. The
refusal is sent if one of its characters ends one byte beyond the limit; otherwise the
connection ends without it. -/
theorem serve_of_long_line (canvas : SharedCanvas δ) :
    (Text.CutBetween long (maxRequest + 1) →
      serve (Text.toUtf8 text) canvas =
        ((answerLines earlier canvas).1 ++ [oversized], (answerLines earlier canvas).2)) ∧
    (¬ Text.CutBetween long (maxRequest + 1) →
      serve (Text.toUtf8 text) canvas = answerLines earlier canvas) ∧
    sent oversized =
      "\x7b\"ok\":false,\"error\":\"request exceeds 65536 bytes\"\x7d\n" :=
  ⟨fun between => serve_of_cutBetween lines fit tooLong between canvas,
    fun within => serve_of_not_cutBetween lines fit tooLong within canvas, by rfl⟩

end Stream

/-- A line of one-byte characters, one more than fit. -/
def flood : List Char := List.replicate (maxRequest + 1) 'x'

/-- The query is answered, and so is the flood. -/
theorem serve_of_long_line_flood :
    Text.piecesAt '\n' (String.ofList (query ++ '\n' :: flood)).toList = [query] ++ flood :: [] ∧
    (∀ line ∈ [query], (Text.encode line).length ≤ maxRequest) ∧
    maxRequest < (Text.encode flood).length ∧ Text.CutBetween flood (maxRequest + 1) ∧
    serve (Text.toUtf8 (String.ofList (query ++ '\n' :: flood))) dark =
      ([Response.ofValue 4, oversized], dark) := by
  have bytes : (Text.encode flood).length = maxRequest + 1 := by
    rw [flood, Text.length_encode_replicate]
    rfl
  have between : Text.CutBetween flood (maxRequest + 1) := ⟨flood, List.prefix_refl _, bytes⟩
  have lines : Text.piecesAt '\n' (String.ofList (query ++ '\n' :: flood)).toList =
      [query] ++ flood :: [] := by
    have single : '\n' ∉ flood := fun member =>
      absurd (List.eq_of_mem_replicate member) (by decide)
    rw [String.toList_ofList, Text.piecesAt_append_cons (by decide),
      Text.piecesAt_of_notMem single]
    rfl
  have fit : ∀ line ∈ [query], (Text.encode line).length ≤ maxRequest := by
    intro line member
    obtain rfl := List.mem_singleton.mp member
    decide
  have tooLong : maxRequest < (Text.encode flood).length := by
    rw [bytes]
    exact Nat.lt_succ_self _
  have answered : answerLines [query] dark = ([Response.ofValue 4], dark) := by rfl
  have served := (serve_of_long_line lines fit tooLong dark).1 between
  rw [answered] at served
  exact ⟨lines, fit, tooLong, between, served⟩

/-- A line of the greatest length with one more character, of two bytes. -/
def straddling : List Char := List.replicate maxRequest 'x' ++ ['é']

/-- **A request that is too long and is not answered.** The limit falls inside its last
character. -/
theorem straddling_unanswered :
    Text.piecesAt '\n' (String.ofList (straddling ++ ['\n'])).toList = [straddling, []] ∧
    maxRequest < (Text.encode straddling).length ∧
    serve (Text.toUtf8 (String.ofList (straddling ++ ['\n']))) dark = ([], dark) ∧
    serve (Text.toUtf8 (String.ofList (straddling ++ ['\n']))) dark ≠ ([oversized], dark) := by
  have bytes : (Text.encode (List.replicate maxRequest 'x')).length = maxRequest := by
    rw [Text.length_encode_replicate]
    rfl
  have single : '\n' ∉ straddling := by
    intro member
    rcases List.mem_append.mp member with flood | last
    · exact absurd (List.eq_of_mem_replicate flood) (by decide)
    · exact absurd last (by decide)
  have lines : Text.piecesAt '\n' (String.ofList (straddling ++ ['\n'])).toList =
      [] ++ straddling :: [[]] := by
    rw [String.toList_ofList, Text.piecesAt_append_cons single]
    rfl
  have length : (Text.encode straddling).length = maxRequest + 2 := by
    rw [straddling, Text.encode_append, List.length_append, bytes]
    rfl
  have tooLong : maxRequest < (Text.encode straddling).length := by omega
  have within : ¬ Text.CutBetween straddling (maxRequest + 1) := by
    rintro ⟨front, isFront, cut⟩
    rcases List.prefix_concat_iff.mp isFront with rfl | ⟨rest, flood⟩
    · rw [← straddling] at cut
      omega
    · have shorter := congrArg (fun text => (Text.encode text).length) flood
      simp only [Text.encode_append, List.length_append, bytes] at shorter
      omega
  have silent :=
    serve_of_not_cutBetween lines (fun line member => nomatch member) tooLong within dark
  refine ⟨lines, tooLong, silent, ?_⟩
  rw [silent]
  exact fun same => nomatch congrArg Prod.fst same

end LedMatrix.Server
