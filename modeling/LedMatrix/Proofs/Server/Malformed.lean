/-
# Requests that hold no command

A line that is not blank and holds no command is to cost its sender one refusal and
nothing else: the canvas stays, and the other lines are answered as if this one were not
there. `serve_of_malformed_line` says for which lines this is so. It is so for every line
that is a text, whatever is wrong with the text. A line that is no text ends the
connection: it is not answered, and neither is anything after it.

`undecodable_unanswered` is a line of the second kind with a query behind it. Such a line
is malformed like the others and owed the same refusal, so this is a fault of the server
and not a choice.
-/

import LedMatrix.Proofs.Server.Requests

namespace LedMatrix.Server

/-! ## A line among others -/

theorem hasIllegible_cons (line : List UInt8) (rest : List (List UInt8)) :
    hasIllegible (line :: rest) = ((Text.ofUtf8 line).isNone || hasIllegible rest) := rfl

theorem hasIllegible_append (earlier later : List (List UInt8)) :
    hasIllegible (earlier ++ later) = (hasIllegible earlier || hasIllegible later) :=
  List.any_append

/-- Behind lines that are texts the next ones count. -/
theorem legible_append {earlier : List (List UInt8)} (texts : hasIllegible earlier = false)
    (later : List (List UInt8)) :
    legible (earlier ++ later) = legible earlier ++ legible later := by
  induction earlier with
  | nil => rfl
  | cons line rest ih =>
      rw [hasIllegible_cons] at texts
      obtain ⟨text, rest_texts⟩ := Bool.or_eq_false_iff.mp texts
      rw [List.cons_append, legible, legible]
      cases read : Text.ofUtf8 line with
      | none =>
          rw [read] at text
          cases text
      | some characters =>
          dsimp only
          rw [ih rest_texts, List.cons_append]

/-- A line that is no text is the end of what is answered. -/
theorem legible_of_illegible {earlier : List (List UInt8)} (texts : hasIllegible earlier = false)
    (later : List (List UInt8)) {bad : List UInt8} (unread : Text.ofUtf8 bad = none) :
    legible (earlier ++ bad :: later) = legible earlier := by
  rw [legible_append texts, legible, unread, List.append_nil]

section Connections

variable {δ : Type} [StripDriver δ] [Json.Placing Command]

/-- A line that is a text and holds no command, for the given reason. -/
def IsRefused (line : List UInt8) (report : String) : Prop :=
  ∃ text, Text.ofUtf8 line = some text ∧ request? text.toList = some (.error report)

/-- A line that is not blank and holds no command. It may be no text at all. -/
def IsMalformed (line : List UInt8) : Prop :=
  Text.ofUtf8 line = none ∨ ∃ report, IsRefused line report

/-- A refused line adds its refusal to the answers, at its place. -/
theorem answerLines_of_isRefused {earlier : List (List UInt8)}
    (texts : hasIllegible earlier = false) (later : List (List UInt8)) {bad : List UInt8}
    {report : String} (refused : IsRefused bad report) (canvas : SharedCanvas δ) :
    ∃ after left,
      answerLines (legible (earlier ++ later)) canvas =
        ((answerLines (legible earlier) canvas).1 ++ after, left) ∧
      answerLines (legible (earlier ++ bad :: later)) canvas =
        ((answerLines (legible earlier) canvas).1 ++ badRequest report :: after, left) := by
  obtain ⟨text, read, asked⟩ := refused
  have answered (canvas : SharedCanvas δ) :
      answerLine text.toList canvas = (some (badRequest report), canvas) := by
    rw [answerLine_eq, asked]
  refine ⟨(answerLines (legible later) (answerLines (legible earlier) canvas).2).1,
    (answerLines (legible later) (answerLines (legible earlier) canvas).2).2, ?_, ?_⟩
  · rw [legible_append texts, answerLines_append]
  · rw [legible_append texts, answerLines_append, legible, read]
    dsimp only
    rw [answerLines_cons, answered]
    rfl

/-! ## The whole stream -/

section Stream

variable {stream : List UInt8} {earlier later : List (List UInt8)} {bad : List UInt8}
  (lines : stream.splitOn newline = earlier ++ bad :: later)
  (fit : ∀ line ∈ stream.splitOn newline, line.length ≤ maxRequest)
include lines fit

/-- The connection goes through the lines of a stream, and also through fewer of them. -/
theorem goesThrough_some_lines {fewer : List (List UInt8)}
    (among : ∀ line ∈ fewer, line ∈ earlier ++ bad :: later) :
    GoesThrough δ ([newline].intercalate fewer) fewer := by
  rw [lines] at fit
  refine goesThrough_intercalate ?_ ?_
  · intro line member
    exact newline_notMem_of_mem_splitOn (lines ▸ among line member)
  · intro line member
    exact fit line (among line member)

/-- **What a line costs that holds no command.** Let the lines before it be texts, so that
the connection comes to it, and let no line be too long. If it is a text, it is answered
by one refusal, and everything else is as if it were not there: the other answers, the
canvas, and whether the connection is given up. If it is no text, the connection is given
up at this line, and nothing of it or of what follows is answered or carried out. -/
theorem serve_of_malformed_line (texts : hasIllegible earlier = false)
    (malformed : IsMalformed bad) (canvas : SharedCanvas δ) :
    let before := [newline].intercalate earlier
    let others := [newline].intercalate (earlier ++ later)
    (∃ report, IsRefused bad report ∧ (badRequest report).ok = false ∧
      (serve stream canvas).2 = (serve others canvas).2 ∧
      isGivenUp (reads stream) canvas = isGivenUp (reads others) canvas ∧
      ∃ after, (serve others canvas).1 = (serve before canvas).1 ++ after ∧
        (serve stream canvas).1 = (serve before canvas).1 ++ badRequest report :: after) ∨
    (Text.ofUtf8 bad = none ∧ serve stream canvas = serve before canvas ∧
      isGivenUp (reads stream) canvas = true) := by
  intro before others
  have stream_lines : [newline].intercalate (earlier ++ bad :: later) = stream := by
    rw [← lines, List.intercalate_splitOn]
  have whole : GoesThrough δ stream (earlier ++ bad :: later) := by
    have through := goesThrough_some_lines (δ := δ) lines fit fun _ member => member
    rwa [stream_lines] at through
  have first : GoesThrough δ before earlier :=
    goesThrough_some_lines lines fit fun _ member => List.mem_append_left _ member
  have rest : GoesThrough δ others (earlier ++ later) := by
    refine goesThrough_some_lines lines fit fun line member => ?_
    rcases List.mem_append.mp member with front | back
    · exact List.mem_append_left _ front
    · exact List.mem_append_right _ (List.mem_cons_of_mem bad back)
  rcases malformed with unread | ⟨report, refused⟩
  · refine .inr ⟨unread, ?_, ?_⟩
    · rw [whole.serve_eq, first.serve_eq, legible_of_illegible texts later unread]
    · rw [whole.isGivenUp_eq, hasIllegible_append, hasIllegible_cons, unread, texts]
      rfl
  · obtain ⟨after, left, without, answered⟩ :=
      answerLines_of_isRefused texts later refused canvas
    refine .inl ⟨report, refused, rfl, ?_, ?_, after, ?_, ?_⟩
    · rw [whole.serve_eq, rest.serve_eq, without, answered]
    · obtain ⟨text, read, -⟩ := refused
      rw [whole.isGivenUp_eq, rest.isGivenUp_eq, hasIllegible_append, hasIllegible_append,
        hasIllegible_cons, read]
      rfl
    · rw [rest.serve_eq, first.serve_eq, without]
    · rw [whole.serve_eq, first.serve_eq, answered]

end Stream

end Connections

/-- A query as a line of a stream. -/
def queryLine : List UInt8 := Text.encode query

/-- A line without a command costs nothing but its refusal. -/
theorem serve_of_malformed_line_between :
    let _ := atEnd
    let stream := [newline].intercalate [queryLine, [0x78], queryLine]
    stream.splitOn newline = [queryLine] ++ [0x78] :: [queryLine] ∧
    (∀ line ∈ stream.splitOn newline, line.length ≤ maxRequest) ∧
    hasIllegible [queryLine] = false ∧ IsMalformed [0x78] ∧
    (serve stream dark).1 =
      [.ofValue 4, badRequest "expected value at line 1 column 1", .ofValue 4] := by
  intro _ stream
  have lines : stream.splitOn newline = [queryLine] ++ [0x78] :: [queryLine] := by decide
  have fit : ∀ line ∈ stream.splitOn newline, line.length ≤ maxRequest := by
    rw [lines]
    decide
  have texts : hasIllegible [queryLine] = false := rfl
  have read : Text.ofUtf8 [0x78] = some "x" := rfl
  have asked : request? "x".toList = some (.error "expected value at line 1 column 1") := rfl
  have malformed : IsMalformed [0x78] := .inr ⟨_, "x", read, asked⟩
  refine ⟨lines, fit, texts, malformed, ?_⟩
  rcases serve_of_malformed_line lines fit texts malformed dark with
    ⟨report, ⟨text, read', asked'⟩, -, -, -, after, without, answered⟩ | ⟨unread, -, -⟩
  · obtain rfl : "x" = text := Option.some.inj (read.symm.trans read')
    obtain rfl : "expected value at line 1 column 1" = report :=
      Except.error.inj (Option.some.inj (asked.symm.trans asked'))
    have before : (serve ([newline].intercalate [queryLine]) dark).1 = [.ofValue 4] := rfl
    have others : (serve ([newline].intercalate ([queryLine] ++ [queryLine])) dark).1 =
        [.ofValue 4, .ofValue 4] := rfl
    rw [before, others] at without
    rw [answered, before]
    obtain rfl : [.ofValue 4] = after := (List.cons.inj without).2
    rfl
  · rw [read] at unread
    cases unread

/-- A line of one byte that is part of no text, and a query. -/
def undecodable : List UInt8 := [0xFF, newline] ++ queryLine ++ [newline]

/-- **A malformed line that is not answered.** The query behind it is lost with it, which
would have been answered if the line were not there. -/
theorem undecodable_unanswered :
    undecodable.splitOn newline = [] ++ [0xFF] :: [queryLine, []] ∧
    (∀ line ∈ undecodable.splitOn newline, line.length ≤ maxRequest) ∧ IsMalformed [0xFF] ∧
    serve undecodable dark = ([], dark) ∧ isGivenUp (reads undecodable) dark = true ∧
    serve ([newline].intercalate ([] ++ [queryLine, []])) dark = ([.ofValue 4], dark) ∧
    ¬ ∃ reason, serve undecodable dark = ([.refusal reason, .ofValue 4], dark) := by
  have unread : Text.ofUtf8 [0xFF] = none := rfl
  have silent : serve undecodable dark = ([], dark) := rfl
  refine ⟨by decide, by decide, .inl unread, silent, rfl, rfl, ?_⟩
  rintro ⟨reason, answered⟩
  rw [silent] at answered
  exact nomatch congrArg Prod.fst answered

end LedMatrix.Server
