/-
# Configuration files

A configuration is read from a file that may be missing, may be no text and may
be no configuration. A program that only wants to start takes the defaults in
all three cases.
-/

import LedMatrix.Report
import LedMatrix.Text.Utf8
import LedMatrix.Written.Config

namespace LedMatrix.Config

variable [Json.Placing Config]

/-- The configuration in a file, given the path for the report and the content,
if there is a file at all. -/
def load (path : String) : (content : Option (List UInt8)) → Except Report Config
  | none => unreadable "No such file or directory (os error 2)"
  | some bytes =>
      match Text.ofUtf8 bytes with
      | none => unreadable "stream did not contain valid UTF-8"
      | some text =>
          match parse text with
          | .ok config => .ok config
          | .error fault => .error {
              message := "Failed to parse config file " ++ path
              causes := [fault.report Config text] }
where
  /-- The report of a file that cannot be read. -/
  unreadable (cause : String) : Except Report Config :=
    .error { message := "Failed to read config file " ++ path, causes := [cause] }

/-- The configuration that the environment asks for: that of the named file, or
the defaults if no file is named or if the file is of no use. -/
def ofEnvironment : (file : Option (String × Option (List UInt8))) → Config
  | none => {}
  | some (path, content) =>
      match load path content with
      | .ok config => config
      | .error _ => {}

/-- The name of the variable that names the configuration file. -/
def environmentVariable : String := "LED_CANVAS_CONFIG"

end LedMatrix.Config
