/-
# Errors of canvases

Everything that can go wrong while a picture is read, painted, composed or
shown, each cause with the data that its report names. The wording lives in
`CanvasError.message` alone.

`Edit σ` is a computation on a state `σ` that may fail with such an error. It
keeps the state it has reached when it fails: an edit that stops half-way
leaves half of its work behind, and nothing is rolled back silently.
-/

import LedMatrix.Handle

namespace LedMatrix

/-- Why a canvas, a compositor or a strip refuses a request. -/
inductive CanvasError where
  /-- The degree is not a quarter turn. -/
  | invalidRotation (degree : Int)
  /-- The cell lies outside a canvas of the given logical size. -/
  | outOfRange (x y : Int) (width height : Nat)
  /-- There is no glyph for the digit. -/
  | invalidDigit (digit : Nat)
  /-- The handle names no live window. -/
  | staleWindow (window : WindowId)
  /-- The window has no parent to move in. -/
  | orphan (window : WindowId)
  /-- The child is the parent or one of its ancestors. -/
  | cycle (parent child : WindowId)
  /-- The parent's registry has no such entry. -/
  | notAChild (parent : WindowId) (child : Child)
  /-- The strip's driver has not been initialised. -/
  | notInitialized
  /-- The driver itself reports a failure. -/
  | driver (reason : String)
  deriving DecidableEq, Inhabited

/-- The report of an error. -/
def CanvasError.message : CanvasError → String
  | .invalidRotation degree =>
      "invalid rotation " ++ toString degree ++ ", expected one of 0, 90, 180, 270"
  | .outOfRange x y width height =>
      "pixel (" ++ toString x ++ ", " ++ toString y ++ ") out of range for "
        ++ toString width ++ "x" ++ toString height ++ " canvas"
  | .invalidDigit digit => "no 3x5 glyph for digit " ++ toString digit
  | .staleWindow window =>
      "window handle " ++ window.display ++ " is stale or was never created"
  | .orphan window => "window " ++ window.display ++ " has no parent"
  | .cycle parent child =>
      "adding window " ++ child.display ++ " under " ++ parent.display
        ++ " would create a cycle"
  | .notAChild parent child =>
      child.display ++ " is not registered under window " ++ parent.display
  | .notInitialized => "strip driver is not initialized"
  | .driver reason => "strip driver error: " ++ reason

/-- A change of a state `σ` that may fail and then keeps what it has done. -/
abbrev Edit (σ α : Type) := EStateM CanvasError σ α

namespace Edit

/-- Edit a part of a larger state. The part is put back whether or not the
edit succeeds. -/
def within {σ τ α : Type} (view : τ → σ) (replace : τ → σ → τ) (edit : Edit σ α) : Edit τ α :=
  fun whole =>
    match edit (view whole) with
    | .ok answer part => .ok answer (replace whole part)
    | .error cause part => .error cause (replace whole part)

end Edit

end LedMatrix
