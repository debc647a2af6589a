/-
# Simple values come back

Numbers, colours, turns and strip types are read from what is written for them, and none of
them is written as a number of more than one word.
-/

import LedMatrix.Proofs.Json.Records
import LedMatrix.Written.Basic

namespace LedMatrix

open LedMatrix.Json

/-- A number of 32 bits with a sign. -/
def IsSigned32 (value : Int) : Prop := -0x80000000 ≤ value ∧ value ≤ 0x7FFFFFFF

instance (value : Int) : Decidable (IsSigned32 value) := inferInstanceAs (Decidable (_ ∧ _))

namespace Written

theorem signed32_doc {value : Int} (inRange : IsSigned32 value) :
    Reader.signed32 (Value.integer value).doc = .ok value :=
  Reader.integer_doc inRange.1 inRange.2 "i32"

theorem readColor_doc (color : Color) : readColor (writeColor color).doc = .ok color := by
  have inRange : color.toNat ≤ 0xFFFFFFFF :=
    Nat.le_of_lt (Nat.lt_trans color.toNat_lt (by decide))
  have read := Reader.natural_doc inRange "u32"
  rw [readColor, writeColor, Reader.word32, read, Except.map, Color.ofNat_toNat]

theorem readRotation_doc (rotation : Rotation) :
    readRotation (writeRotation rotation).doc = .ok rotation := by
  have inRange : IsSigned32 rotation.degrees := by
    cases rotation <;> exact ⟨by decide, by decide⟩
  rw [readRotation, writeRotation, signed32_doc inRange]
  simp only [bind, Except.bind, Rotation.ofDegrees_degrees]
  rfl

theorem readStripType_doc (access : Access) (stripType : StripType) :
    readStripType access (writeStripType stripType).doc = .ok stripType := by
  cases stripType <;> rfl

/-! ## Widths -/

theorem fits_integer {value : Int} (inRange : IsSigned32 value) : (Value.integer value).Fits := by
  obtain ⟨least, greatest⟩ := inRange
  have word : (0x7FFFFFFF : Int) ≤ Numeral.maxWord := by decide
  exact .integer (Int.le_trans (by decide) least) (Int.le_trans greatest word)

theorem fits_natural {value : Nat} (inRange : value ≤ Numeral.maxWord) :
    (Value.natural value).Fits :=
  .integer (Int.le_trans (by decide) (Int.natCast_nonneg value)) (Int.ofNat_le.mpr inRange)

theorem fits_writeColor (color : Color) : (writeColor color).Fits :=
  fits_natural (Nat.le_of_lt (Nat.lt_trans color.toNat_lt (by decide)))

theorem fits_writeRotation (rotation : Rotation) : (writeRotation rotation).Fits :=
  fits_integer (by cases rotation <;> exact ⟨by decide, by decide⟩)

theorem fits_optional {α : Type} {write : α → Value} {value : Option α}
    (each : ∀ present ∈ value, (write present).Fits) : (Value.optional write value).Fits := by
  cases value with
  | none => exact .null
  | some value => exact each value rfl

end Written

end LedMatrix
