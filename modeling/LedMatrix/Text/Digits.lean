/-
# Digits

A number written in some base is a list of digits without anything between
them. Readers of such numbers know the greatest value that they can use; a
number beyond it is no number to them, however many zeros it starts with.
-/

namespace LedMatrix.Text

/-- The value of a hexadecimal digit. -/
def hexDigit? (c : Char) : Option Nat :=
  if c.isDigit then some (c.toNat - '0'.toNat)
  else if 'a' ≤ c ∧ c ≤ 'f' then some (c.toNat - 'a'.toNat + 10)
  else if 'A' ≤ c ∧ c ≤ 'F' then some (c.toNat - 'A'.toNat + 10)
  else none

/-- The value of a digit of a base up to sixteen. -/
def digit? (base : Nat) (c : Char) : Option Nat := (hexDigit? c).filter fun value => value < base

/-- Append digits to a number, which may not pass the greatest one. -/
def appendDigits? (base greatest : Nat) : (number : Nat) → List Char → Option Nat
  | number, [] => some number
  | number, c :: rest => do
      let longer := number * base + (← digit? base c)
      if longer ≤ greatest then appendDigits? base greatest longer rest else none

/-- The number that a text writes in a base: one digit at least, and nothing but
digits. -/
def number? (base greatest : Nat) : List Char → Option Nat
  | [] => none
  | digits => appendDigits? base greatest 0 digits

/-- A number that may be written with a plus sign. -/
def plusNumber? (base greatest : Nat) : List Char → Option Nat
  | '+' :: digits => number? base greatest digits
  | digits => number? base greatest digits

end LedMatrix.Text
