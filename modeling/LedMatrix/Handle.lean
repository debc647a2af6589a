/-
# Handles

Windows and registered sources are named by handles. A window handle is a slot
of the store together with the generation of the window that was put there, so
a slot can be used again without an old handle naming the new window. Both
counters are 32-bit numbers that wrap around.
-/

namespace LedMatrix

/-- A handle to a window. -/
structure WindowId where
  /-- The slot the window lives in. -/
  slot : Nat
  /-- How often the slot had been vacated when the window was put there. -/
  generation : UInt32
  deriving DecidableEq

/-- A handle to one registration of a source under a window. -/
structure SourceId where
  /-- The number of the registration. -/
  number : UInt32
  deriving DecidableEq

/-- What a registry entry stands for, as callers see it. -/
inductive Child where
  | window (id : WindowId)
  | source (id : SourceId)
  deriving DecidableEq

/-- The written form of a window handle, such as `WindowId(1@gen0)`. -/
def WindowId.display (id : WindowId) : String :=
  "WindowId(" ++ toString id.slot ++ "@gen" ++ toString id.generation.toNat ++ ")"

/-- The written form of a source handle, such as `SourceId(3)`. -/
def SourceId.display (id : SourceId) : String :=
  "SourceId(" ++ toString id.number.toNat ++ ")"

/-- The written form of an entry: its kind around the form of its handle. -/
def Child.display : Child → String
  | .window id => "Window(" ++ id.display ++ ")"
  | .source id => "Source(" ++ id.display ++ ")"

end LedMatrix
