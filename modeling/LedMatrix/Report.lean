/-
# Reports

A failure of the program as a whole is told as a chain: what could not be done,
and behind it what caused it.
-/

namespace LedMatrix

/-- A failure with its causes, the outermost first. -/
structure Report where
  message : String
  causes : List String := []
  deriving DecidableEq

namespace Report

/-- A report on one line. -/
def inline (report : Report) : String := ": ".intercalate (report.message :: report.causes)

/-- The causes as they are listed: a single one stands alone, several are
numbered. -/
def listCauses : List String → String
  | [] => ""
  | [cause] => "\n\nCaused by:\n    " ++ cause
  | causes =>
      "\n\nCaused by:" ++ String.join (causes.mapIdx fun index cause =>
        "\n    " ++ toString index ++ ": " ++ cause)

/-- A report as the program prints it before it ends. -/
def display (report : Report) : String :=
  "Error: " ++ report.message ++ listCauses report.causes ++ "\n"

end Report

end LedMatrix
