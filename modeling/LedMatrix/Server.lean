/-
# The command server

A connection is a stream of bytes that carries one request per line, and every
request is answered by one line. What a connection does is therefore a function
from the bytes it receives and the canvas it finds to the replies it sends and
the canvas it leaves.

The stream is taken in reads. A read ends with a line, with the stream, or when
it has taken one byte more than a request may have. A read that is no text ends
the connection without a word; a read that is too long is answered by a refusal
that ends the connection. Blank lines are not answered.
-/

import LedMatrix.Service
import LedMatrix.Text.Utf8
import LedMatrix.Written.Command

namespace LedMatrix.Server

/-- The longest request in bytes, the end of its line not counted. -/
def maxRequest : Nat := 64 * 1024

/-- The byte that ends a line. -/
def newline : UInt8 := 10

/-- The first read of a stream: the bytes up to and with the end of the line,
but no more than one byte beyond the longest request. -/
def firstRead (stream : List UInt8) : List UInt8 :=
  let line := stream.takeWhile (· ≠ newline)
  stream.take (min (line.length + 1) (maxRequest + 1))

/-- The reads of a stream. Every read of a stream that has not ended takes at
least one byte, so as many rounds as there are bytes are enough. -/
def readsWithin : (rounds : Nat) → List UInt8 → List (List UInt8)
  | 0, _ => []
  | _ + 1, [] => []
  | rounds + 1, stream =>
      let read := firstRead stream
      read :: readsWithin rounds (stream.drop read.length)

/-- The reads of a stream, in their order. -/
def reads (stream : List UInt8) : List (List UInt8) := readsWithin stream.length stream

/-- The answer to a request that is too long. -/
def oversized : Response :=
  .refusal ("request exceeds " ++ toString maxRequest ++ " bytes")

/-- Whether a read was cut off within a line that is too long. -/
def isCutOff (read : List UInt8) : Bool :=
  decide (maxRequest < read.length) && read.getLast? ≠ some newline

/-- The reply to a request that holds no command. -/
def badRequest (report : String) : Response := .refusal ("bad request: " ++ report)

variable {δ : Type} [StripDriver δ] [Json.Placing Command]

/-- Answer a request. -/
def answer (request : String) (canvas : SharedCanvas δ) : Response × SharedCanvas δ :=
  match Command.parse request with
  | .ok command => canvas.execute command
  | .error report => (badRequest report, canvas)

/-- What comes of one read. -/
structure Turn (δ : Type) where
  /-- The answer, if there is one. -/
  response : Option Response
  /-- The canvas after the read. -/
  canvas : SharedCanvas δ
  /-- Whether the connection ends with this read. -/
  isLast : Bool

/-- Treat one read of a connection. -/
def turn (read : List UInt8) (canvas : SharedCanvas δ) : Turn δ :=
  match Text.ofUtf8 read with
  | none => { response := none, canvas, isLast := true }
  | some text =>
      if isCutOff read then { response := oversized, canvas, isLast := true }
      else
        match Text.trimmed text.toList with
        | [] => { response := none, canvas, isLast := false }
        | request =>
            let (response, canvas) := answer (String.ofList request) canvas
            { response, canvas, isLast := false }

/-- Go through the reads of a connection, up to the one that ends it. -/
def converse : List (List UInt8) → SharedCanvas δ → List Response × SharedCanvas δ
  | [], canvas => ([], canvas)
  | read :: rest, canvas =>
      let taken := turn read canvas
      if taken.isLast then (taken.response.toList, taken.canvas)
      else
        let (responses, canvas) := converse rest taken.canvas
        (taken.response.toList ++ responses, canvas)

/-- What a connection answers to a stream, and the canvas that it leaves. -/
def serve (stream : List UInt8) (canvas : SharedCanvas δ) : List Response × SharedCanvas δ :=
  converse (reads stream) canvas

/-- A response as it is sent. -/
def sent (response : Response) : String := response.toLine ++ "\n"

end LedMatrix.Server
