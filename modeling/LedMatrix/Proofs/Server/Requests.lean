/-
# The run of a connection

A stream is one line after the other (`[newline].intercalate`), and as long as no line
is too long every read is a line. What the server does with such a stream can then be
said without reads: it answers the lines up to the first one that is no text
(`goesThrough_intercalate`), and gives the connection up exactly if there is such a line.

For a stream that is a text this is all of it. `serve_of_fitting_lines` says which
replies are sent and which canvas is left in terms of the requests alone: a request is a
line that is not blank, and holds a command or is reported to hold none. What is reported
may tell a place, whichever the reader says (`Json.Placing`). The lines of the replies are
given as they are written (`IsWrittenAs`).
-/

import LedMatrix.Proofs.Server.Lines

namespace LedMatrix.Server

variable {δ : Type} [StripDriver δ]

/-! ## Replies -/

/-- The commands among requests. -/
def commands (requests : List (Except String Command)) : List Command :=
  requests.filterMap Except.toOption

/-- The canvas after commands that are carried out one after the other. -/
def afterCommands (commands : List Command) (canvas : SharedCanvas δ) : SharedCanvas δ :=
  commands.foldl (fun canvas command => (canvas.execute command).2) canvas

/-- The replies to requests, one for each. -/
def replies : List (Except String Command) → SharedCanvas δ → List Response
  | [], _ => []
  | .ok command :: rest, canvas =>
      (canvas.execute command).1 :: replies rest (canvas.execute command).2
  | .error report :: rest, canvas => badRequest report :: replies rest canvas

/-- What is written for a reply: that a command was carried out, with the number that it
asked for if it did, or else the reason why none was, in which quotes, backslashes and
control characters are escaped. -/
inductive IsWrittenAs : Response → String → Prop
  | done : IsWrittenAs .done "\x7b\"ok\":true\x7d"
  | ofValue (value : Nat) :
      IsWrittenAs (.ofValue value) ("\x7b\"ok\":true,\"value\":" ++ toString value ++ "\x7d")
  | refusal (reason : String) :
      IsWrittenAs (.refusal reason)
        ("\x7b\"ok\":false,\"error\":\"" ++
          String.ofList (reason.toList.flatMap Json.Value.escapedChar) ++ "\"\x7d")

theorem isWrittenAs_refusal (reason : String) :
    IsWrittenAs (.refusal reason) (Response.refusal reason).toLine := by
  rw [Response.toLine_refusal]
  exact .refusal reason

theorem isWrittenAs_execute (command : Command) (canvas : SharedCanvas δ) :
    IsWrittenAs (canvas.execute command).1 (canvas.execute command).1.toLine := by
  unfold SharedCanvas.execute
  split
  · rw [Response.toLine_done]
    exact .done
  · split
    · rw [Response.toLine_ofValue]
      exact .ofValue _
    · rw [Response.toLine_done]
      exact .done
    · exact isWrittenAs_refusal _

/-- A reply has one of the three forms, and its line is what is written for it. -/
theorem isWrittenAs_replies {requests : List (Except String Command)} {canvas : SharedCanvas δ}
    {reply : Response} (sent : reply ∈ replies requests canvas) :
    IsWrittenAs reply reply.toLine := by
  induction requests generalizing canvas with
  | nil => exact absurd sent List.not_mem_nil
  | cons request rest ih =>
      cases request with
      | ok command =>
          rcases List.mem_cons.mp sent with rfl | later
          · exact isWrittenAs_execute command canvas
          · exact ih later
      | error report =>
          rcases List.mem_cons.mp sent with rfl | later
          · exact isWrittenAs_refusal _
          · exact ih later

/-! ## Lines that are texts -/

/-- The lines that are texts, up to the first one that is none. -/
def legible : List (List UInt8) → List (List Char)
  | [] => []
  | line :: rest =>
      match Text.ofUtf8 line with
      | none => []
      | some text => text.toList :: legible rest

/-- Whether one of the lines is no text. -/
def hasIllegible (lines : List (List UInt8)) : Bool :=
  lines.any fun line => (Text.ofUtf8 line).isNone

/-- The end of a line is in none of the lines of a stream. -/
theorem newline_notMem_of_mem_splitOn {stream line : List UInt8}
    (member : line ∈ stream.splitOn newline) : newline ∉ line := by
  induction stream generalizing line with
  | nil =>
      rw [List.splitOn_nil, List.mem_singleton] at member
      exact member ▸ List.not_mem_nil
  | cons byte rest ih =>
      rw [List.splitOn_cons_eq_if_modifyHead] at member
      by_cases ends : byte == newline
      · rw [if_pos ends] at member
        rcases List.mem_cons.mp member with rfl | later
        · exact List.not_mem_nil
        · exact ih later
      · rw [if_neg ends] at member
        cases lines : rest.splitOn newline with
        | nil => exact absurd lines (List.splitOn_ne_nil newline rest)
        | cons first others =>
            rw [lines, List.modifyHead_cons] at member
            rw [lines] at ih
            rcases List.mem_cons.mp member with rfl | later
            · rintro inside
              rcases List.mem_cons.mp inside with same | further
              · exact ends (beq_iff_eq.mpr same.symm)
              · exact ih List.mem_cons_self further
            · exact ih (List.mem_cons_of_mem first later)

theorem legible_encode (lines : List (List Char)) : legible (lines.map Text.encode) = lines := by
  induction lines with
  | nil => rfl
  | cons line rest ih =>
      rw [List.map_cons, legible, Text.ofUtf8_encode, ih]
      exact congrArg (· :: rest) String.toList_ofList

theorem hasIllegible_encode (lines : List (List Char)) :
    hasIllegible (lines.map Text.encode) = false := by
  rw [hasIllegible, List.any_eq_false]
  intro bytes member
  obtain ⟨line, -, rfl⟩ := List.mem_map.mp member
  rw [Text.ofUtf8_encode]
  exact Bool.false_ne_true

/-! ## Requests -/

section Connections

variable [Json.Placing Command]

/-- What a line asks for, unless it is blank: a command, or the report of a line that
holds none. -/
def request? (line : List Char) : Option (Except String Command) :=
  match Text.trimmed line with
  | [] => none
  | request => some (Command.parse (String.ofList request))

/-- The requests of a text, in their order. -/
def requests (text : String) : List (Except String Command) :=
  (Text.piecesAt '\n' text.toList).filterMap request?

/-- A line is answered as what it asks for. -/
theorem answerLine_eq (line : List Char) (canvas : SharedCanvas δ) :
    answerLine line canvas =
      match request? line with
      | none => (none, canvas)
      | some (.ok command) => (some (canvas.execute command).1, (canvas.execute command).2)
      | some (.error report) => (some (badRequest report), canvas) := by
  rw [answerLine, request?]
  cases Text.trimmed line with
  | nil => rfl
  | cons first rest =>
      dsimp only
      rw [answer]
      cases Command.parse (String.ofList (first :: rest)) <;> rfl

/-- Lines are answered as the requests that they hold. -/
theorem answerLines_eq (lines : List (List Char)) (canvas : SharedCanvas δ) :
    answerLines lines canvas =
      (replies (lines.filterMap request?) canvas,
        afterCommands (commands (lines.filterMap request?)) canvas) := by
  induction lines generalizing canvas with
  | nil => rfl
  | cons line rest ih =>
      rw [answerLines, answerLine_eq]
      cases asked : request? line with
      | none =>
          rw [List.filterMap_cons_none asked]
          exact ih canvas
      | some request =>
          rw [List.filterMap_cons_some asked]
          cases request with
          | ok command =>
              dsimp only
              rw [ih]
              rfl
          | error report =>
              dsimp only
              rw [ih]
              rfl

/-! ## Streams of lines -/

/-- Whether a connection is given up by one of its reads, before the stream has ended. -/
def isGivenUp : List (List UInt8) → SharedCanvas δ → Bool
  | [], _ => false
  | read :: rest, canvas =>
      (turn read canvas).isLast || isGivenUp rest (turn read canvas).canvas

section Steps

variable {read rest : List UInt8} (first : firstRead (read ++ rest) = read) (nonempty : read ≠ [])
  {canvas : SharedCanvas δ}
include first nonempty

theorem isGivenUp_append (goesOn : (turn read canvas).isLast = false) :
    isGivenUp (reads (read ++ rest)) canvas = isGivenUp (reads rest) (turn read canvas).canvas := by
  rw [reads_append first nonempty, isGivenUp, goesOn, Bool.false_or]

theorem isGivenUp_of_isLast (ends : (turn read canvas).isLast = true) :
    isGivenUp (reads (read ++ rest)) canvas = true := by
  rw [reads_append first nonempty, isGivenUp, ends, Bool.true_or]

end Steps

/-- What becomes of a line of bytes: a text is answered, and anything else ends the
connection. -/
def lineTurn (line : List UInt8) (canvas : SharedCanvas δ) : Turn δ :=
  match Text.ofUtf8 line with
  | none => { response := none, canvas, isLast := true }
  | some text =>
      { response := (answerLine text.toList canvas).1, canvas := (answerLine text.toList canvas).2,
        isLast := false }

/-- A line that comes with its end is taken as a line. -/
theorem turn_ended_line (line : List UInt8) (canvas : SharedCanvas δ) :
    turn (line ++ [newline]) canvas = lineTurn line canvas := by
  rw [lineTurn]
  cases read : Text.ofUtf8 line with
  | none => rw [turn, show [newline] = [10] from rfl, Text.ofUtf8_concat_newline read]
  | some text =>
      have bytes : line ++ [newline] = Text.encode (text.toList ++ ['\n']) := by
        rw [Text.encode_append, Text.encode_of_ofUtf8 read, Text.encode_newline]
        rfl
      have whole : isCutOff (Text.encode (text.toList ++ ['\n'])) = false := by
        rw [isCutOff, ← bytes, List.getLast?_concat]
        simp
      rw [bytes, turn_encode whole, answerLine_newline]

/-- A line that the stream ends without ending it is taken as a line, too. -/
theorem turn_last_line {line : List UInt8} (fits : line.length ≤ maxRequest)
    (canvas : SharedCanvas δ) : turn line canvas = lineTurn line canvas := by
  rw [lineTurn]
  cases read : Text.ofUtf8 line with
  | none => rw [turn, read]
  | some text =>
      have bytes := Text.encode_of_ofUtf8 read
      have whole : isCutOff (Text.encode text.toList) = false := by
        rw [isCutOff, bytes, decide_eq_false (Nat.not_lt.mpr fits), Bool.false_and]
      rw [← bytes, turn_encode whole]

/-- A connection goes through a stream as through the given lines: they are answered up
to the first one that is no text, and if there is such a line, the connection is given up
there. -/
structure GoesThrough (δ : Type) [StripDriver δ] [Json.Placing Command] (stream : List UInt8)
    (lines : List (List UInt8)) : Prop where
  serve_eq : ∀ canvas : SharedCanvas δ, serve stream canvas = answerLines (legible lines) canvas
  isGivenUp_eq : ∀ canvas : SharedCanvas δ,
    isGivenUp (reads stream) canvas = hasIllegible lines

/-- Nothing comes of a stream without a byte. -/
theorem GoesThrough.nil : GoesThrough δ [] [] where
  serve_eq _ := rfl
  isGivenUp_eq _ := rfl

/-- A read that is taken as a line comes before the lines of the rest. -/
theorem GoesThrough.cons {read rest line : List UInt8} {lines : List (List UInt8)}
    (first : firstRead (read ++ rest) = read) (nonempty : read ≠ [])
    (taken : ∀ canvas : SharedCanvas δ, turn read canvas = lineTurn line canvas)
    (later : GoesThrough δ rest lines) : GoesThrough δ (read ++ rest) (line :: lines) := by
  cases text : Text.ofUtf8 line with
  | none =>
      have turned (canvas : SharedCanvas δ) :
          turn read canvas = { response := none, canvas, isLast := true } := by
        rw [taken, lineTurn, text]
      constructor
      · intro canvas
        rw [serve_of_isLast first nonempty (by rw [turned]), turned, legible, text]
        rfl
      · intro canvas
        rw [isGivenUp_of_isLast first nonempty (by rw [turned]), hasIllegible, List.any_cons, text]
        rfl
  | some characters =>
      have turned (canvas : SharedCanvas δ) : turn read canvas =
          { response := (answerLine characters.toList canvas).1,
            canvas := (answerLine characters.toList canvas).2, isLast := false } := by
        rw [taken, lineTurn, text]
      constructor
      · intro canvas
        rw [serve_append first nonempty (by rw [turned]), turned, later.serve_eq, legible, text]
        rfl
      · intro canvas
        rw [isGivenUp_append first nonempty (by rw [turned]), turned, later.isGivenUp_eq,
          hasIllegible, hasIllegible, List.any_cons, text]
        rfl

/-- A line that the stream ends is gone through, whether or not it holds anything. -/
theorem goesThrough_last_line {line : List UInt8} (single : newline ∉ line)
    (fits : line.length ≤ maxRequest) : GoesThrough δ line [line] := by
  by_cases empty : line = []
  · subst empty
    have text : Text.ofUtf8 [] = some (String.ofList []) := Text.ofUtf8_encode []
    constructor
    · intro canvas
      rw [legible, text]
      rfl
    · intro canvas
      rw [hasIllegible, List.any_cons, text]
      rfl
  · have first : firstRead (line ++ []) = line := by
      rw [firstRead, takeWhile_line single, List.takeWhile_nil, List.append_nil,
        List.take_of_length_le (by omega)]
    have whole := GoesThrough.cons first empty (turn_last_line fits) (GoesThrough.nil (δ := δ))
    rwa [List.append_nil] at whole

/-- **The run of a connection.** If no line is too long, the connection goes through the
stream line by line. -/
theorem goesThrough_intercalate {lines : List (List UInt8)}
    (single : ∀ line ∈ lines, newline ∉ line) (fit : ∀ line ∈ lines, line.length ≤ maxRequest) :
    GoesThrough δ ([newline].intercalate lines) lines := by
  induction lines with
  | nil => exact .nil
  | cons line rest ih =>
      obtain ⟨line_single, rest_single⟩ := List.forall_mem_cons.mp single
      obtain ⟨line_fits, rest_fit⟩ := List.forall_mem_cons.mp fit
      cases rest with
      | nil =>
          rw [List.intercalate_singleton]
          exact goesThrough_last_line line_single line_fits
      | cons next rest =>
          have first := firstRead_line line_single line_fits ([newline].intercalate (next :: rest))
          have ended : line ++ [newline] ≠ [] := List.concat_ne_nil _ _
          rw [List.append_cons] at first
          rw [List.intercalate_cons_cons]
          exact .cons first ended (turn_ended_line line) (ih rest_single rest_fit)

/-! ## Streams that are texts -/

section Stream

variable {text : String}
  (fit : ∀ line ∈ Text.piecesAt '\n' text.toList, (Text.encode line).length ≤ maxRequest)
include fit

/-- The lines of a text are the lines of its bytes. -/
theorem goesThrough_text :
    GoesThrough δ (Text.toUtf8 text) ((Text.piecesAt '\n' text.toList).map Text.encode) := by
  obtain ⟨joined, single⟩ := Text.intercalate_piecesAt '\n' text.toList
  have bytes : Text.toUtf8 text =
      [newline].intercalate ((Text.piecesAt '\n' text.toList).map Text.encode) := by
    have encoded := Text.encode_intercalate ['\n'] (Text.piecesAt '\n' text.toList)
    rwa [joined, ← Text.toUtf8_eq_encode, Text.encode_newline] at encoded
  rw [bytes]
  refine goesThrough_intercalate ?_ ?_
  · intro line member
    obtain ⟨piece, listed, rfl⟩ := List.mem_map.mp member
    exact Text.newline_notMem_encode (single piece listed)
  · intro line member
    obtain ⟨piece, listed, rfl⟩ := List.mem_map.mp member
    exact fit piece listed

/-- A text is answered as the requests that it holds. -/
theorem serve_text (canvas : SharedCanvas δ) :
    serve (Text.toUtf8 text) canvas =
      (replies (requests text) canvas, afterCommands (commands (requests text)) canvas) := by
  rw [(goesThrough_text fit).serve_eq, legible_encode, answerLines_eq]
  rfl

end Stream

/-- The end of the last line is no request. -/
theorem requests_newline (text : String) : requests (text ++ "\n") = requests text := by
  have blank : request? [] = none := rfl
  have lines : Text.piecesAt '\n' (text ++ "\n").toList =
      Text.piecesAt '\n' text.toList ++ [[]] := by
    rw [String.toList_append]
    exact Text.piecesAt_concat_self '\n' text.toList
  rw [requests, lines, List.filterMap_append, List.filterMap_cons_none blank, List.filterMap_nil,
    List.append_nil, requests]

/-- **What a connection does with a text whose lines all fit.** It reads all of the
stream and is not given up before. The requests are answered one by one, each by one line
of its own, blank lines are passed over, and the canvas is left as the commands among the
requests leave it. A line may be as long as the limit, and whether the last one is ended
makes no difference. The lines of the replies are the ones that are written for them. -/
theorem serve_of_fitting_lines (text : String)
    (fit : ∀ line ∈ Text.piecesAt '\n' text.toList, (Text.encode line).length ≤ maxRequest)
    (canvas : SharedCanvas δ) :
    let stream := Text.toUtf8 text
    (reads stream).flatten = stream ∧ isGivenUp (reads stream) canvas = false ∧
    serve stream canvas =
      (replies (requests text) canvas, afterCommands (commands (requests text)) canvas) ∧
    ((serve stream canvas).1.flatMap fun response => Text.toUtf8 (sent response)) =
      Text.encode ((replies (requests text) canvas).flatMap fun reply =>
        reply.toLine.toList ++ ['\n']) ∧
    (∀ reply ∈ replies (requests text) canvas, IsWrittenAs reply reply.toLine) ∧
    serve (Text.toUtf8 (text ++ "\n")) canvas = serve stream canvas := by
  intro stream
  have served := serve_text fit canvas
  refine ⟨flatten_reads stream, ?_, served, ?_, fun _ => isWrittenAs_replies, ?_⟩
  · rw [(goesThrough_text fit).isGivenUp_eq, hasIllegible_encode]
  · have line : (fun response => Text.toUtf8 (sent response)) =
        fun reply : Response => Text.encode (reply.toLine.toList ++ ['\n']) := by
      funext reply
      rw [Text.toUtf8_eq_encode, sent, String.toList_append]
      rfl
    rw [served, line]
    exact List.flatMap_assoc.symm
  · have fit_ended : ∀ line ∈ Text.piecesAt '\n' (text ++ "\n").toList,
        (Text.encode line).length ≤ maxRequest := by
      rw [String.toList_append, show "\n".toList = ['\n'] from rfl, Text.piecesAt_concat_self]
      intro line member
      rcases List.mem_append.mp member with earlier | last
      · exact fit line earlier
      · obtain rfl := List.mem_singleton.mp last
        exact Nat.zero_le _
    rw [served, serve_text fit_ended, requests_newline]

end Connections

/-- A query with blanks behind it, just as long as a request may be. -/
def padded : List Char := query ++ List.replicate (maxRequest - query.length) ' '

/-- Two such queries, the second one at the end of the stream, and between them a blank
line and two that are no JSON. -/
def session : List (List Char) := [padded, [' '], ['x'], ['"', '\x01'], padded]

/-- What the lines of the session ask for. -/
def asked : List (Except String Command) :=
  [.ok .width, .error "expected value at line 1 column 1",
    .error ("control character (\\u0000-\\u001F) found while parsing a string" ++
      " at line 1 column 2"), .ok .width]

theorem serve_of_fitting_lines_session :
    let _ := atEnd
    let stream := Text.toUtf8 (String.ofList (['\n'].intercalate session))
    (∀ line ∈ Text.piecesAt '\n' (String.ofList (['\n'].intercalate session)).toList,
      (Text.encode line).length ≤ maxRequest) ∧
    (Text.encode padded).length = maxRequest ∧ maxRequest = 65536 ∧
    requests (String.ofList (['\n'].intercalate session)) = asked ∧
    serve stream dark = (replies asked dark, dark) ∧
    ((serve stream dark).1.flatMap fun response => Text.toUtf8 (sent response)) =
      Text.encode (["\x7b\"ok\":true,\"value\":4\x7d",
        "\x7b\"ok\":false,\"error\":\"bad request: expected value at line 1 column 1\"\x7d",
        "\x7b\"ok\":false,\"error\":\"bad request: control character (\\\\u0000-\\\\u001F) " ++
          "found while parsing a string at line 1 column 2\"\x7d",
        "\x7b\"ok\":true,\"value\":4\x7d"].flatMap fun line => line.toList ++ ['\n']) := by
  intro _ stream
  have full : (Text.encode padded).length = maxRequest := by
    rw [padded, Text.encode_append, List.length_append, Text.length_encode_replicate]
    rfl
  have single : '\n' ∉ padded := by
    intro member
    rcases List.mem_append.mp member with asked | blank
    · exact absurd asked (by decide)
    · exact absurd (List.eq_of_mem_replicate blank) (by decide)
  have lines :
      Text.piecesAt '\n' (String.ofList (['\n'].intercalate session)).toList = session := by
    rw [String.toList_ofList]
    refine Text.piecesAt_intercalate (List.cons_ne_nil _ _) ?_
    simp [session, single]
  have fit : ∀ line ∈ Text.piecesAt '\n' (String.ofList (['\n'].intercalate session)).toList,
      (Text.encode line).length ≤ maxRequest := by
    rw [lines]
    simp [session, full]
    decide
  have read : requests (String.ofList (['\n'].intercalate session)) = asked := by
    have asks : request? padded = some (.ok .width) := by
      rw [request?, padded, Text.trimmed_append_replicate rfl]
      rfl
    have blank : request? [' '] = none := rfl
    have faulty : request? ['x'] = some (.error "expected value at line 1 column 1") := rfl
    have torn : request? ['"', '\x01'] = some (.error
        ("control character (\\u0000-\\u001F) found while parsing a string" ++
          " at line 1 column 2")) := rfl
    rw [requests, lines, session, List.filterMap_cons_some asks, List.filterMap_cons_none blank,
      List.filterMap_cons_some faulty, List.filterMap_cons_some torn,
      List.filterMap_cons_some asks, List.filterMap_nil, asked]
  have left : afterCommands (commands asked) dark = dark := rfl
  have answered : (Response.ofValue 4).toLine = "\x7b\"ok\":true,\"value\":4\x7d" := by decide
  have refused : (badRequest "expected value at line 1 column 1").toLine =
      "\x7b\"ok\":false,\"error\":\"bad request: expected value at line 1 column 1\"\x7d" := by
    decide +kernel
  have escaped : (badRequest ("control character (\\u0000-\\u001F) found while parsing a string" ++
        " at line 1 column 2")).toLine =
      "\x7b\"ok\":false,\"error\":\"bad request: control character (\\\\u0000-\\\\u001F) " ++
        "found while parsing a string at line 1 column 2\"\x7d" := by
    decide +kernel
  obtain ⟨-, -, served, bytes, -, -⟩ := serve_of_fitting_lines _ fit dark
  rw [read] at bytes
  rw [read, left] at served
  refine ⟨fit, full, rfl, read, served, bytes.trans (congrArg Text.encode ?_)⟩
  rw [← answered, ← refused, ← escaped]
  rfl

end LedMatrix.Server
