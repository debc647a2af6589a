/-
# The written form of commands and replies

A command is an object whose member `cmd` names it and whose other members are
its arguments, in any order; or it is the list of the name and the arguments in
their order. The name is looked at as soon as it is met. The arguments are taken
only after the whole command has been read, because the name may come last.
Arguments that the command does not know are ignored, as long as they are JSON.

`CommandName.build` puts a command together from its arguments and
`Command.arguments` takes it apart again.
-/

import LedMatrix.Command
import LedMatrix.Written.Basic

namespace LedMatrix

/-- The names of the commands. -/
inductive CommandName where
  | render
  | drawPixel
  | drawText
  | drawNumber
  | clear
  | width
  | height
  | pixel
  | setRotate
  | setTransparent
  | setBackground
  | setAutoRender
  deriving DecidableEq

/-- Everything that can be an argument of a command. -/
structure Arguments where
  x : Int := 0
  y : Int := 0
  text : String := ""
  number : Nat := 0
  color : Color := .black
  background : Option Color := none
  degree : Int := 0
  flipX : Bool := false
  flipY : Bool := false
  enabled : Bool := false
  deriving DecidableEq

namespace CommandName

/-- All names, in the order in which they are listed. -/
def all : List CommandName :=
  [render, drawPixel, drawText, drawNumber, clear, width, height, pixel, setRotate,
    setTransparent, setBackground, setAutoRender]

/-- The written name. -/
def written : CommandName → String
  | render => "render"
  | drawPixel => "draw_pixel"
  | drawText => "draw_text"
  | drawNumber => "draw_number"
  | clear => "clear"
  | width => "width"
  | height => "height"
  | pixel => "pixel"
  | setRotate => "set_rotate"
  | setTransparent => "set_transparent"
  | setBackground => "set_background"
  | setAutoRender => "set_auto_render"

/-- The name by which messages about the number of arguments call a command. -/
def title : CommandName → String
  | render => "Render"
  | drawPixel => "DrawPixel"
  | drawText => "DrawText"
  | drawNumber => "DrawNumber"
  | clear => "Clear"
  | width => "Width"
  | height => "Height"
  | pixel => "Pixel"
  | setRotate => "SetRotate"
  | setTransparent => "SetTransparent"
  | setBackground => "SetBackground"
  | setAutoRender => "SetAutoRender"

/-- The command with the given name and arguments. -/
def build (name : CommandName) (a : Arguments) : Command :=
  match name with
  | render => .render
  | drawPixel => .drawPixel a.x a.y a.color
  | drawText => .drawText a.x a.y a.text a.color a.background
  | drawNumber => .drawNumber a.x a.y a.number a.color
  | clear => .clear
  | width => .width
  | height => .height
  | pixel => .pixel a.x a.y
  | setRotate => .setRotate a.degree a.flipX a.flipY
  | setTransparent => .setTransparent a.enabled
  | setBackground => .setBackground a.color
  | setAutoRender => .setAutoRender a.enabled

end CommandName

namespace Command

/-- The name of a command. -/
def name : Command → CommandName
  | render => .render
  | drawPixel .. => .drawPixel
  | drawText .. => .drawText
  | drawNumber .. => .drawNumber
  | clear => .clear
  | width => .width
  | height => .height
  | pixel .. => .pixel
  | setRotate .. => .setRotate
  | setTransparent _ => .setTransparent
  | setBackground _ => .setBackground
  | setAutoRender _ => .setAutoRender

/-- The arguments of a command; those that it does not have are the defaults. -/
def arguments : Command → Arguments
  | render | clear | width | height => {}
  | drawPixel x y color => { x, y, color }
  | drawText x y text color background => { x, y, text, color, background }
  | drawNumber x y number color => { x, y, number, color }
  | pixel x y => { x, y }
  | setRotate degree flipX flipY => { degree, flipX, flipY }
  | setTransparent enabled => { enabled }
  | setBackground color => { color }
  | setAutoRender enabled => { enabled }

@[simp] theorem build_name_arguments (command : Command) :
    command.name.build command.arguments = command := by
  cases command <;> rfl

end Command

namespace Written

open LedMatrix.Json

namespace Argument

/-- An argument that has to be given. -/
def required {α : Type} (name : String) (reader : Reader α)
    (replace : Arguments → α → Arguments) : RecordField Arguments :=
  { RecordField.into name reader replace with isRequired := true }

def x : RecordField Arguments := required "x" Reader.signed32 fun a x => { a with x }
def y : RecordField Arguments := required "y" Reader.signed32 fun a y => { a with y }
def text : RecordField Arguments := required "text" Reader.string fun a text => { a with text }
def number : RecordField Arguments :=
  required "number" Reader.word64 fun a number => { a with number }
def color : RecordField Arguments := required "color" readColor fun a color => { a with color }
def degree : RecordField Arguments :=
  required "degree" Reader.signed32 fun a degree => { a with degree }
def enabled : RecordField Arguments :=
  required "enabled" Reader.bool fun a enabled => { a with enabled }

/-- The background of a text may be left out. -/
def background : RecordField Arguments :=
  .into "background" (Reader.optional readColor) fun a background => { a with background }

/-- A mirror may be left out and has two names. -/
def flipX : RecordField Arguments :=
  { RecordField.into "flip_x" Reader.bool fun a flipX => { a with flipX } with
    aliases := ["flipX"] }

/-- A mirror may be left out and has two names. -/
def flipY : RecordField Arguments :=
  { RecordField.into "flip_y" Reader.bool fun a flipY => { a with flipY } with
    aliases := ["flipY"] }

end Argument

/-- The arguments of a command in their order. -/
def argumentFields : CommandName → List (RecordField Arguments)
  | .render | .clear | .width | .height => []
  | .drawPixel => [Argument.x, Argument.y, Argument.color]
  | .drawText => [Argument.x, Argument.y, Argument.text, Argument.color, Argument.background]
  | .drawNumber => [Argument.x, Argument.y, Argument.number, Argument.color]
  | .pixel => [Argument.x, Argument.y]
  | .setRotate => [Argument.degree, Argument.flipX, Argument.flipY]
  | .setTransparent | .setAutoRender => [Argument.enabled]
  | .setBackground => [Argument.color]

/-- A number of elements, in words. -/
def elements (count : Nat) : String :=
  toString count ++ (if count = 1 then " element" else " elements")

/-- The arguments of a command as a record. -/
def argumentSchema (name : CommandName) : Schema Arguments where
  fields := argumentFields name
  wanted := "struct variant Command::" ++ name.title
  wantedLength := "struct variant Command::" ++ name.title ++ " with "
    ++ elements (argumentFields name).length
  surplus := fun length =>
    .wrongLength length (elements (argumentFields name).length ++ " in sequence")

/-- The name of a command is read from a string. -/
def readCommandName : Reader CommandName
  | .string offer => do Reader.variant.named CommandName.all CommandName.written (← offer.typed)
  | doc => Reader.wrongType "variant identifier" doc

/-- A command is nested at most this deep, itself included. -/
def maxDepth : Nat := 127

/-- The arguments that go with a name, from the members of an object. -/
def readNamedArguments (name : CommandName) (members : List (Offer String × Doc)) :
    Except Fault Command :=
  (argumentSchema name).reader {} (.object members .closed) |>.map name.build

/-- Go through the members of a command once. The name is taken where it is met,
every other member has to be free of faults, and the members other than the
name are kept for later, the last one first. -/
def scanMembers : (name : Option CommandName) → (kept : List (Offer String × Doc)) →
    List (Offer String × Doc) → Except Fault (Option CommandName × List (Offer String × Doc))
  | name, kept, [] => .ok (name, kept)
  | name, kept, (key, content) :: rest => do
      if (← key.typed) = "cmd" then
        if name.isSome then throw (.duplicateField "cmd")
        let found ← readCommandName content
        scanMembers (some found) kept rest
      else
        Reader.require (Reader.firstFault? (maxDepth - 1) content)
        scanMembers name ((key, content) :: kept) rest

/-- A command. -/
def readCommand : Reader Command
  | .object members ending => do
      let (name?, kept) ← scanMembers none [] members
      Reader.require ending.typedFault?
      match name? with
      | none => throw (.missingField "cmd")
      | some name => readNamedArguments name kept.reverse
  | .list [] ending => do
      Reader.require ending.typedFault?
      throw (.missingField "cmd")
  | .list (first :: items) ending => do
      let name ← readCommandName first
      Reader.require (Reader.firstItemFault? (maxDepth - 1) ending.typedFault? items)
      let arguments ← (argumentSchema name).reader {} (.list items .closed)
      return name.build arguments
  | doc => Reader.wrongType "internally tagged enum Command" doc

/-- The written arguments of a command. -/
def writeArguments : Command → List (String × Value)
  | .render | .clear | .width | .height => []
  | .drawPixel x y color =>
      [("x", .integer x), ("y", .integer y), ("color", writeColor color)]
  | .drawText x y text color background =>
      [("x", .integer x), ("y", .integer y), ("text", .string text), ("color", writeColor color),
        ("background", Value.optional writeColor background)]
  | .drawNumber x y number color =>
      [("x", .integer x), ("y", .integer y), ("number", .natural number),
        ("color", writeColor color)]
  | .pixel x y => [("x", .integer x), ("y", .integer y)]
  | .setRotate degree flipX flipY =>
      [("degree", .integer degree), ("flip_x", .bool flipX), ("flip_y", .bool flipY)]
  | .setTransparent enabled | .setAutoRender enabled => [("enabled", .bool enabled)]
  | .setBackground color => [("color", writeColor color)]

/-- A written command. -/
def writeCommand (command : Command) : Value :=
  .object (("cmd", .string command.name.written) :: writeArguments command)

/-- The members of a reply. -/
def responseSchema : Schema Response where
  wanted := "struct Response"
  wantedLength := "struct Response with 3 elements"
  fields := [
    { RecordField.into "ok" Reader.bool fun response ok => { response with ok } with
      isRequired := true },
    .into "value" (Reader.optional Reader.word64) fun response value => { response with value },
    .into "error" (Reader.optional Reader.string) fun response error => { response with error }]

/-- A reply. -/
def readResponse : Reader Response := responseSchema.reader { ok := false }

/-- A written reply, which leaves out what it does not have. -/
def writeResponse (response : Response) : Value :=
  .object ([("ok", .bool response.ok)]
    ++ response.value.toList.map (fun value => ("value", .natural value))
    ++ response.error.toList.map (fun error => ("error", .string error)))

end Written

namespace Command

/-- A command from one line. -/
def ofLine (line : String) : Except Json.Fault Command := Json.decode Written.readCommand line

/-- A command from one line, or the report of a line that holds none. -/
def parse [Json.Placing Command] (line : String) : Except String Command :=
  (ofLine line).mapError (Json.Fault.report Command line)

/-- A command as one line. -/
def toLine (command : Command) : String := (Written.writeCommand command).render

end Command

namespace Response

/-- A reply from one line. -/
def ofLine (line : String) : Except Json.Fault Response := Json.decode Written.readResponse line

/-- A reply as one line, without the end of the line. -/
def toLine (response : Response) : String := (Written.writeResponse response).render

theorem toLine_done : done.toLine = "\x7b\"ok\":true\x7d" := rfl

theorem toLine_ofValue (value : Nat) :
    (ofValue value).toLine = "\x7b\"ok\":true,\"value\":" ++ toString value ++ "\x7d" := by
  have digits : Json.Value.renderInteger (value : Int) = (toString value).toList := by
    rw [Json.Value.renderInteger, if_neg (Int.not_lt.mpr (Int.natCast_nonneg value))]
    exact String.toList_ofList.symm
  have written : (Written.writeResponse (ofValue value)).renderChars =
      "\x7b\"ok\":true,\"value\":".toList ++ Json.Value.renderInteger (value : Int) ++ ['\x7d'] :=
    rfl
  rw [toLine, Json.Value.render, written, digits, String.ofList_append, String.ofList_append,
    String.ofList_toList, String.ofList_toList]

theorem toLine_refusal (reason : String) :
    (refusal reason).toLine =
      "\x7b\"ok\":false,\"error\":\"" ++
        String.ofList (reason.toList.flatMap Json.Value.escapedChar) ++ "\"\x7d" := by
  have written : (Written.writeResponse (refusal reason)).renderChars =
      "\x7b\"ok\":false,\"error\":\"".toList ++
        (reason.toList.flatMap Json.Value.escapedChar ++ ['"'] ++ ['\x7d']) := rfl
  rw [toLine, Json.Value.render, written, List.append_assoc, String.ofList_append,
    String.ofList_append, String.ofList_toList, String.append_assoc]
  rfl

end Response

end LedMatrix
