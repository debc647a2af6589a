/-
# Quoted text

Text shown inside a message stands between double quotes. A quote, a backslash
and the common control characters have short escapes; every other character
without a printed form is written by its number, as in `\u{7f}`.
-/

import LedMatrix.Text.Printable

namespace LedMatrix.Text

/-- The hexadecimal digits of a number, in lower case. -/
def lowerHex (n : Nat) : List Char := Nat.toDigits 16 n

/-- A character as it stands inside quotes. -/
def quotedChar (c : Char) : List Char :=
  if c = '"' then ['\\', '"']
  else if c = '\\' then ['\\', '\\']
  else if c = '\n' then ['\\', 'n']
  else if c = '\r' then ['\\', 'r']
  else if c = '\t' then ['\\', 't']
  else if c.toNat = 0 then ['\\', '0']
  else if isPrintable c then [c]
  else ['\\', 'u', '\x7b'] ++ lowerHex c.toNat ++ ['\x7d']

/-- A text between quotes. -/
def quoted (text : String) : String :=
  "\"" ++ String.ofList (text.toList.flatMap quotedChar) ++ "\""

/-- The characters that count as blank at the ends of a text. -/
def isBlank (c : Char) : Bool :=
  let n := c.toNat
  (9 ≤ n && n ≤ 13) || n = 0x20 || n = 0x85 || n = 0xA0 || n = 0x1680
    || (0x2000 ≤ n && n ≤ 0x200A) || n = 0x2028 || n = 0x2029 || n = 0x202F
    || n = 0x205F || n = 0x3000

/-- A text without the blanks at its ends. -/
def trimmed (text : List Char) : List Char :=
  ((text.dropWhile isBlank).reverse.dropWhile isBlank).reverse

/-- A blank at the end of a text is cut off. -/
theorem trimmed_concat_of_isBlank {c : Char} (blank : isBlank c = true) (text : List Char) :
    trimmed (text ++ [c]) = trimmed text := by
  rw [trimmed, trimmed, List.dropWhile_append]
  split
  · rename_i empty
    rw [List.isEmpty_iff.mp empty, List.dropWhile_cons_of_pos blank, List.dropWhile_nil]
  · rw [List.reverse_concat, List.dropWhile_cons_of_pos blank]

/-- Blanks at the end of a text are cut off, however many there are. -/
theorem trimmed_append_replicate {c : Char} (blank : isBlank c = true) (text : List Char)
    (count : Nat) : trimmed (text ++ List.replicate count c) = trimmed text := by
  induction count with
  | zero => rw [List.replicate_zero, List.append_nil]
  | succ count ih =>
      rw [List.replicate_succ', ← List.append_assoc, trimmed_concat_of_isBlank blank, ih]

end LedMatrix.Text
