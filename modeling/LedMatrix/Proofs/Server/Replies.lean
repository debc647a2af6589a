/-
# Replies as lines

A reply is sent as one line, whatever the text of its error: every control character of it is
escaped, so the newline behind the reply is the only one (`Travels.line`). Who reads the line gets
the reply back, with nothing added where a value or an error was left out (`Travels.back`).

Errors quote what a client has sent, so nothing may be assumed about their texts. What is
assumed is that a value has one word, which holds of every answer to a canvas whose sides do
(`fits_answer`).
-/

import LedMatrix.Proofs.Json.Reading
import LedMatrix.Proofs.Json.Records
import LedMatrix.Proofs.Server.Lines
import LedMatrix.Proofs.Service.Tasks

namespace LedMatrix

open LedMatrix.Json

namespace Response

/-- The value, if there is one, has one word. -/
def Fits (response : Response) : Prop := ∀ value ∈ response.value, value ≤ Numeral.maxWord

/-- The parts of a reply with the given names; the others are those of a reply that has not
been read. -/
def keeping (response : Response) (names : String → Bool) : Response where
  ok := if names "ok" then response.ok else false
  value := if names "value" then response.value else none
  error := if names "error" then response.error else none

end Response

namespace Written

/-! ## Reading a reply -/

section Reading

variable {response : Response}

theorem takes_ok :
    responseSchema.Takes response.keeping ("ok", (Value.bool response.ok).doc) :=
  ⟨_, rfl, RecordField.carries_with (Reader.bool_doc response.ok) fun names => by
    simp [Response.keeping]⟩

theorem takes_value {value : Nat} (present : response.value = some value)
    (fits : value ≤ Numeral.maxWord) :
    responseSchema.Takes response.keeping ("value", (Value.natural value).doc) := by
  have read : Reader.optional Reader.word64 (Value.natural value).doc = .ok (some value) := by
    change (Reader.word64 (Value.natural value).doc).map some = _
    rw [Reader.word64_doc fits, Except.map]
  exact ⟨_, rfl, RecordField.carries_into read fun names => by simp [Response.keeping, present]⟩

theorem takes_error {text : String} (present : response.error = some text) :
    responseSchema.Takes response.keeping ("error", (Value.string text).doc) := by
  have read : Reader.optional Reader.string (Value.string text).doc = .ok (some text) := rfl
  exact ⟨_, rfl, RecordField.carries_into read fun names => by simp [Response.keeping, present]⟩

/-- A reply is read from the members that name its parts. -/
theorem readResponse_ofMembers {shown : List (String × Doc)} (others : List String)
    (takes : ∀ member ∈ shown, responseSchema.Takes response.keeping member)
    (names : responseSchema.namesIn shown = "ok" :: others) (once : ("ok" :: others).Nodup)
    (kept : response.keeping ("ok" :: others).contains = response) :
    readResponse (.ofMembers shown) = .ok response := by
  have order : shown.Perm (shown ++ []) := by rw [List.append_nil]
  have complete : ∀ field ∈ responseSchema.fields, field.isRequired = true →
      field.name ∈ responseSchema.namesIn shown := by
    rw [names]
    simp [responseSchema, RecordField.into]
  have read := Schema.reader_ofMembers order takes nofun (names ▸ once) complete
  rw [names, kept] at read
  exact read

/-- **A reply is read from what is written for it**, whichever of its parts are left out. -/
theorem readResponse_doc (fits : response.Fits) :
    readResponse (writeResponse response).doc = .ok response := by
  rw [writeResponse, Value.doc_object]
  obtain ⟨ok, value, error⟩ := response
  cases value with
  | none =>
      cases error with
      | none =>
          exact readResponse_ofMembers [] (List.forall_mem_cons.mpr ⟨takes_ok, nofun⟩)
            rfl (by decide) rfl
      | some error =>
          exact readResponse_ofMembers ["error"]
            (List.forall_mem_cons.mpr ⟨takes_ok,
              List.forall_mem_cons.mpr ⟨takes_error rfl, nofun⟩⟩) rfl (by decide) rfl
  | some value =>
      cases error with
      | none =>
          exact readResponse_ofMembers ["value"]
            (List.forall_mem_cons.mpr ⟨takes_ok,
              List.forall_mem_cons.mpr ⟨takes_value rfl (fits value rfl), nofun⟩⟩)
            rfl (by decide) rfl
      | some error =>
          exact readResponse_ofMembers ["value", "error"]
            (List.forall_mem_cons.mpr ⟨takes_ok,
              List.forall_mem_cons.mpr ⟨takes_value rfl (fits value rfl),
                List.forall_mem_cons.mpr ⟨takes_error rfl, nofun⟩⟩⟩) rfl (by decide) rfl

theorem fits_writeResponse (fits : response.Fits) : (writeResponse response).Fits := by
  refine .object fun member inside => ?_
  simp only [List.mem_append, List.mem_singleton, List.mem_map, Option.mem_toList] at inside
  rcases inside with (rfl | ⟨value, present, rfl⟩) | ⟨error, -, rfl⟩
  · exact .bool response.ok
  · exact .integer (by omega) (by exact_mod_cast fits value present)
  · exact .string error

end Reading

end Written

namespace Response

/-! ## Lines -/

/-- A reply that can be told apart from what is sent before and behind it, and that arrives as
it was. -/
structure Travels (response : Response) : Prop where
  /-- No character of the line is a control character. -/
  visible : ∀ c ∈ response.toLine.toList, 0x20 ≤ c.toNat
  /-- One newline is sent, and it comes last. -/
  ended : (Server.sent response).toList = response.toLine.toList ++ ['\n'] ∧
    (Server.sent response).toList.count '\n' = 1
  /-- The line stands for the reply. -/
  back : ofLine response.toLine = .ok response

/-- **Every reply travels**, whatever the text of its error. -/
theorem Fits.travels {response : Response} (fits : response.Fits) : response.Travels := by
  have visible : ∀ c ∈ response.toLine.toList, 0x20 ≤ c.toNat := by
    rw [toLine, Value.render, String.toList_ofList]
    exact Value.visible_renderChars _
  have ended : (Server.sent response).toList = response.toLine.toList ++ ['\n'] :=
    String.toList_append
  have single : '\n' ∉ response.toLine.toList := fun inside => absurd (visible _ inside) (by decide)
  refine ⟨visible, ⟨ended, ?_⟩, ?_⟩
  · rw [ended, List.count_append, List.count_eq_zero_of_not_mem single]
    rfl
  · exact decode_of_isTextOf (Written.readResponse_doc fits)
      (Written.fits_writeResponse fits).isTextOf_render

end Response

namespace SharedCanvas

/-! ## Answers -/

variable {δ : Type} [StripDriver δ]

/-- The sides of a canvas have one word each. -/
structure HasWordSides (canvas : SharedCanvas δ) : Prop where
  width : canvas.strip.width ≤ Numeral.maxWord
  height : canvas.strip.height ≤ Numeral.maxWord

/-- The number that a command is answered by has one word. -/
theorem fits_execute {canvas : SharedCanvas δ} (sides : canvas.HasWordSides) (command : Command) :
    (canvas.execute command).1.Fits := by
  intro value answered
  rw [execute_eq] at answered
  obtain ⟨question, task, asked⟩ := value_carryOut answered
  cases command with
  | width =>
      cases task
      cases asked
      exact sides.width
  | height =>
      cases task
      cases asked
      exact sides.height
  | pixel x y =>
      cases task
      dsimp only at asked
      cases read : canvas.strip.picture.pixel x y with
      | error cause =>
          rw [read] at asked
          cases asked
      | ok color =>
          rw [read] at asked
          cases asked
          exact Nat.le_of_lt (Nat.lt_trans color.toNat_lt (by decide))
  | _ => cases task

end SharedCanvas

namespace Server

/-- Whoever cuts what is sent at its newlines has the lines of the replies, and nothing behind
the last one. -/
theorem piecesAt_sent {responses : List Response} (each : ∀ response ∈ responses, response.Fits) :
    Text.piecesAt '\n' (responses.flatMap fun response => (sent response).toList) =
      responses.map (fun response => response.toLine.toList) ++ [[]] := by
  induction responses with
  | nil => rfl
  | cons response rest ih =>
      obtain ⟨first, others⟩ := List.forall_mem_cons.mp each
      obtain ⟨visible, ⟨ended, -⟩, -⟩ := first.travels
      have single : '\n' ∉ response.toLine.toList :=
        fun inside => absurd (visible _ inside) (by decide)
      rw [List.flatMap_cons, ended, List.append_assoc, List.singleton_append,
        Text.piecesAt_append_cons single, ih others]
      rfl

section Connections

variable {δ : Type} [StripDriver δ] [Json.Placing Command]

/-- The answer to any request has a value of one word, if any. -/
theorem fits_answer {canvas : SharedCanvas δ} (sides : canvas.HasWordSides) (request : String) :
    (answer request canvas).1.Fits := by
  unfold answer
  split
  · exact SharedCanvas.fits_execute sides _
  · exact nofun

/-- **Replies are lines, and lossless ones.** -/
theorem replies_travel :
    (∀ response : Response, response.Fits → response.Travels) ∧
      (∀ (request : String) (canvas : SharedCanvas δ), canvas.HasWordSides →
        (answer request canvas).1.Travels) ∧
      ∀ responses : List Response, (∀ response ∈ responses, response.Fits) →
        Text.piecesAt '\n' (responses.flatMap fun response => (sent response).toList) =
          responses.map (fun response => response.toLine.toList) ++ [[]] :=
  ⟨fun _ fits => fits.travels, fun request _ sides => (fits_answer sides request).travels,
    fun _ each => piecesAt_sent each⟩

end Connections

/-- A request whose name would break the line of its refusal, and a reply with the greatest value
and every kind of character that has to be escaped. -/
theorem replies_travel_broken_name :
    let _ : Json.Placing Command := { place? := fun _ _ => some { line := 1, column := 17 } }
    (answer "\x7b\"cmd\":\"no\\nsuch\"\x7d" dark).1.Travels ∧
      Response.Travels
        { ok := false, value := some 0xFFFFFFFFFFFFFFFF, error := some "\"\\\n\r\t\x00é" } := by
  intro _
  obtain ⟨each, answered, -⟩ := @replies_travel Headless _ _
  refine ⟨answered _ dark ⟨by decide, by decide⟩, each _ ?_⟩
  rintro value ⟨⟩
  decide

end Server

end LedMatrix
