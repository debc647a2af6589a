/-
# The command line

The program has two modes, the demo and the command server. What it sets out to do
follows from its arguments, its configuration and the machine it runs on: it ends at
once with an exit code and a report, or it goes on to play or to serve. The mode is
looked at last, so a strip that cannot be started is reported first.

The demo pauses after every frame. What comes of a demo that ends does not depend on the
pauses, so its end is known beforehand (`Plan.settled`).
-/

import LedMatrix.Demo
import LedMatrix.Listening
import LedMatrix.Service

namespace LedMatrix.CommandLine

/-- How the program is used. -/
def usage : String := "usage: led-canvas [demo|serve]"

/-- What the program does after it has started. -/
inductive Plan where
  /-- End with an exit code, after printing a report to the error output. -/
  | finish (exitCode : Nat) (report : String)
  /-- Play the demo, with the pauses and as many frames as configured. -/
  | play (playback : Playback Headless) (config : DemoConfig)
  /-- Serve commands at the host with the given number. -/
  | serve (number : IpAddress) (canvas : SharedCanvas Headless)

namespace Plan

/-- End because of a failure. -/
def fail (report : Report) : Plan := .finish 1 report.display

/-- End because the demo has stopped. -/
def ofStop : DemoStop → Plan
  | .reported report => fail report
  | .divisionByZero =>
      .finish 101 "attempt to calculate the remainder with a divisor of zero\n"

/-- End because there is no room for the picture of the strip. -/
def exhausted : Plan := .finish 101 "capacity overflow\n"

/-- What comes of a plan that ends by itself. -/
def settled : Plan → Plan
  | .play playback config =>
      match config.maxFrames with
      | none => .play playback config
      | some maxFrames =>
          match (playback.play maxFrames 0).1 with
          | .ok _ => .finish 0 ""
          | .error stop => .ofStop stop
  | plan => plan

end Plan

/-- Start the strip as the configuration says. -/
def startStrip (config : Config) : Except Report (Strip Headless) :=
  match Strip.init (Strip.new config.strip ({} : Headless)) with
  | .error cause _ =>
      .error { message := "Failed to initialize LED strip", causes := [cause.message] }
  | .ok () strip =>
      match Strip.configure config.display strip with
      | .error cause _ =>
          .error { message := "Failed to apply display configuration", causes := [cause.message] }
      | .ok () strip => .ok strip

/-- The demo. -/
def planDemo (config : DemoConfig) (strip : Strip Headless) : Plan :=
  match Demo.start strip with
  | .error stop => .ofStop stop
  | .ok playback => .play playback config

/-- The command server on the configured address. -/
def planServer (config : ServerConfig) (strip : Strip Headless) (machine : Machine) : Plan :=
  match Address.listenAt config.bind machine with
  | .ok number => .serve number { strip, autoRender := config.autoRender }
  | .error error =>
      .fail { message := "Failed to bind command server", causes := [error.message] }

/-- What to set out to do with the given arguments; without any the demo is played. -/
def start (arguments : List String) (config : Config) (machine : Machine) : Plan :=
  if !Pixmap.hasRoom config.strip.width config.strip.height then .exhausted
  else
    match startStrip config with
    | .error report => .fail report
    | .ok strip =>
        match arguments.head?.getD "demo" with
        | "demo" => planDemo config.demo strip
        | "serve" => planServer config.server strip machine
        | mode => .fail { message := "unknown mode '" ++ mode ++ "'. " ++ usage }

/-- What comes of the given arguments, as far as it is known beforehand. -/
def plan (arguments : List String) (config : Config) (machine : Machine := .isolated) : Plan :=
  (start arguments config machine).settled

end LedMatrix.CommandLine
