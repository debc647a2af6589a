/-
# The program

Reads the configuration, decides what to do and does it. The program has no network: the
command server takes its one connection from the standard streams. What it says of faults
in texts is without their places.
-/

import LedMatrix.AutoRender
import LedMatrix.CommandLine
import LedMatrix.Server
import LedMatrix.Written.ConfigFile

namespace LedMatrix.Main

/-- The content of a file, if it can be read. -/
def readFile? (path : String) : IO (Option (List UInt8)) := do
  try
    return some (← IO.FS.readBinFile path).toList
  catch _ => return none

/-- The configuration that the environment asks for. -/
def readConfig : IO Config := do
  match ← IO.getEnv Config.environmentVariable with
  | none => return Config.ofEnvironment none
  | some path => return Config.ofEnvironment (some (path, ← readFile? path))

/-- Print a text to the error output and end with an exit code. -/
def finish (exitCode : Nat) (report : String) : IO UInt32 := do
  (← IO.getStderr).putStr report
  return exitCode.toUInt32

/-- The longest sleep in milliseconds. -/
def maxSleep : Nat := 0xFFFFFFFF

/-- Wait for some milliseconds, in several sleeps if one is not enough. -/
def pause (milliseconds : Nat) : IO Unit := do
  for _ in [0 : milliseconds / maxSleep] do
    IO.sleep maxSleep.toUInt32
  IO.sleep (milliseconds % maxSleep).toUInt32

/-- Play frames, each with a pause behind it, until there are enough or one fails; `shown`
says how many there are already. -/
partial def play (config : DemoConfig) (shown : Nat) (playback : Playback Headless) :
    IO UInt32 := do
  if config.maxFrames.any (· ≤ shown) then return 0
  match playback.showFrame with
  | (.ok (), playback) =>
      pause config.frameInterval
      play config (shown + 1) playback
  | (.error stop, _) =>
      match CommandLine.Plan.ofStop stop with
      | .finish exitCode report => finish exitCode report
      | _ => return 1

/-- Take one read from a stream; `taken` are the bytes so far, the last one
first, and `room` says how many more there may be. -/
partial def takeRead (input : IO.FS.Stream) (room : Nat) (taken : List UInt8) :
    IO (List UInt8) := do
  if room = 0 then return taken.reverse
  match (← input.read 1).toList with
  | [] => return taken.reverse
  | byte :: _ =>
      if byte = Server.newline then return (byte :: taken).reverse
      else takeRead input (room - 1) (byte :: taken)

/-- Answer the requests of the standard input until the connection ends. -/
partial def serveStream (canvas : SharedCanvas Headless) : IO UInt32 := do
  let read ← takeRead (← IO.getStdin) (Server.maxRequest + 1) []
  if read.isEmpty then return 0
  let taken := Server.turn read canvas
  if let some response := taken.response then
    let out ← IO.getStdout
    out.putStr (Server.sent response)
    out.flush
  if taken.isLast then return 0 else serveStream taken.canvas

end LedMatrix.Main

/-- Run the program with its arguments. -/
def main (arguments : List String) : IO UInt32 := do
  let config ← LedMatrix.Main.readConfig
  match LedMatrix.CommandLine.start arguments config .isolated with
  | .finish exitCode report => LedMatrix.Main.finish exitCode report
  | .play playback demo => LedMatrix.Main.play demo 0 playback
  | .serve _ canvas => LedMatrix.Main.serveStream canvas
