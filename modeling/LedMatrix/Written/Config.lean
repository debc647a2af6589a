/-
# The written form of a configuration

A configuration is an object of four sections. Each section may leave out any
of its members, and the whole may leave out any section; what is left out keeps
its default. Members that no section knows are skipped.
-/

import LedMatrix.Written.Basic

namespace LedMatrix.Written

open LedMatrix.Json

/-- The members of the strip section. -/
def stripSchema (access : Access) : Schema StripConfig where
  wanted := "struct StripConfig"
  surplus := access.surplus
  fields := [
    .into "width" Reader.length fun strip width => { strip with width },
    .into "height" Reader.length fun strip height => { strip with height },
    .into "dma" Reader.signed32 fun strip dma => { strip with dma },
    .into "gpio" Reader.signed32 fun strip gpio => { strip with gpio },
    .into "brightness" Reader.word8 fun strip brightness => { strip with brightness },
    .into "strip_type" (readStripType access) fun strip stripType => { strip with stripType },
    .into "frequency" Reader.word32 fun strip frequency => { strip with frequency },
    .into "invert" Reader.bool fun strip invert => { strip with invert }]

/-- Read a strip section. -/
def readStripConfig (access : Access) : Reader StripConfig := (stripSchema access).reader {}

/-- Write a strip section. -/
def writeStripConfig (strip : StripConfig) : Value :=
  .object [
    ("width", .natural strip.width),
    ("height", .natural strip.height),
    ("dma", .integer strip.dma),
    ("gpio", .integer strip.gpio),
    ("brightness", .natural strip.brightness),
    ("strip_type", writeStripType strip.stripType),
    ("frequency", .natural strip.frequency),
    ("invert", .bool strip.invert)]

/-- The members of the display section. -/
def displaySchema (access : Access) : Schema DisplayConfig where
  wanted := "struct DisplayConfig"
  surplus := access.surplus
  fields := [
    .into "rotation" readRotation fun display rotation => { display with rotation },
    .into "flip_x" Reader.bool fun display flipX => { display with flipX },
    .into "flip_y" Reader.bool fun display flipY => { display with flipY },
    .into "background" readColor fun display background => { display with background },
    .into "transparent" Reader.bool fun display transparent => { display with transparent }]

/-- Read a display section. -/
def readDisplayConfig (access : Access) : Reader DisplayConfig :=
  (displaySchema access).reader {}

/-- Write a display section. -/
def writeDisplayConfig (display : DisplayConfig) : Value :=
  .object [
    ("rotation", writeRotation display.rotation),
    ("flip_x", .bool display.flipX),
    ("flip_y", .bool display.flipY),
    ("background", writeColor display.background),
    ("transparent", .bool display.transparent)]

/-- The members of the server section. -/
def serverSchema : Schema ServerConfig where
  wanted := "struct ServerConfig"
  fields := [
    .into "bind" Reader.string fun server bind => { server with bind },
    .into "auto_render_interval_ms" Reader.word64 fun server autoRenderInterval =>
      { server with autoRenderInterval },
    .into "auto_render" Reader.bool fun server autoRender => { server with autoRender }]

/-- Read a server section. -/
def readServerConfig : Reader ServerConfig := serverSchema.reader {}

/-- Write a server section. -/
def writeServerConfig (server : ServerConfig) : Value :=
  .object [
    ("bind", .string server.bind),
    ("auto_render_interval_ms", .natural server.autoRenderInterval),
    ("auto_render", .bool server.autoRender)]

/-- The members of the demo section. -/
def demoSchema : Schema DemoConfig where
  wanted := "struct DemoConfig"
  fields := [
    .into "frame_interval_ms" Reader.word64 fun demo frameInterval => { demo with frameInterval },
    .into "max_frames" (Reader.optional Reader.word64) fun demo maxFrames =>
      { demo with maxFrames }]

/-- Read a demo section. -/
def readDemoConfig : Reader DemoConfig := demoSchema.reader {}

/-- Write a demo section. -/
def writeDemoConfig (demo : DemoConfig) : Value :=
  .object [
    ("frame_interval_ms", .natural demo.frameInterval),
    ("max_frames", Value.optional .natural demo.maxFrames)]

/-- The sections of a configuration. -/
def configSchema : Schema Config where
  wanted := "struct Config"
  fields := [
    .into "strip" (readStripConfig .streamed) fun config strip => { config with strip },
    .into "display" (readDisplayConfig .streamed) fun config display => { config with display },
    .into "server" readServerConfig fun config server => { config with server },
    .into "demo" readDemoConfig fun config demo => { config with demo }]

/-- Read a configuration. -/
def readConfig : Reader Config := configSchema.reader {}

/-- Write a configuration. -/
def writeConfig (config : Config) : Value :=
  .object [
    ("strip", writeStripConfig config.strip),
    ("display", writeDisplayConfig config.display),
    ("server", writeServerConfig config.server),
    ("demo", writeDemoConfig config.demo)]

end LedMatrix.Written

namespace LedMatrix.Config

/-- A configuration from the text of a file. -/
def parse (text : String) : Except Json.Fault Config := Json.decode Written.readConfig text

/-- A configuration as the text of a file. -/
def render (config : Config) : String := (Written.writeConfig config).render

end LedMatrix.Config
