/-
# Strings and numbers in JSON text

How strings and numbers may be spelled, and that a reader takes every spelling to its end.
A string is a sequence of pieces between quotes: characters that stand for themselves, letters
and sixteen-bit units that stand for characters. Any sequence can be passed over; whether it
has a text is decided when its units are paired up (`meaning`). A number is a sign, digits
without needless zeros, and perhaps a point with digits and an exponent.

`StringLiteral.scan_spelled` and `Numeral.scan_spelling` say that reading gives back what was
spelled. What is written by this library is spelled in one of these ways, with the text or the
number that was to be written (`exists_pieces_renderString`, `text_ofInt` and `value_ofInt`).
-/

import LedMatrix.Json.Document
import LedMatrix.Json.Value

namespace LedMatrix.Json

/-! ## Strings -/

namespace StringLiteral

/-- A part of a string between its quotes. -/
inductive Piece where
  /-- A character that stands for itself. -/
  | plain (c : Char) (visible : 0x20 ≤ c.toNat) (noQuote : c ≠ '"') (noEscape : c ≠ '\\')
  /-- A letter that stands for a character. -/
  | short (letter c : Char) (escaped : escaped? letter = some c)
  /-- Four digits that stand for a sixteen-bit unit. -/
  | unit (a b c d : Char) (value : Nat) (digits : codeUnit? a b c d = some value)

namespace Piece

/-- The piece as it is written. -/
def text : Piece → List Char
  | plain c _ _ _ => [c]
  | short letter _ _ => ['\\', letter]
  | unit a b c d _ _ => ['\\', 'u', a, b, c, d]

/-- How the piece continues the text of the string. -/
def follow : Piece → Progress → Progress
  | plain c _ _ _ => Progress.char c
  | short _ c _ => Progress.char c
  | unit _ _ _ _ value _ => Progress.codeUnit value

end Piece

/-- A string as it is spelled. -/
def spelled (pieces : List Piece) : List Char := '"' :: pieces.flatMap Piece.text ++ ['"']

/-- How far some pieces bring the text of the string. -/
def followAll (pieces : List Piece) (progress : Progress) : Progress :=
  pieces.foldl (fun progress piece => piece.follow progress) progress

/-- The text of a string, if its units pair up to characters. -/
def meaning (pieces : List Piece) : Except Fault String := (followAll pieces (.reading [])).close

/-- A piece is read whole. -/
theorem scan_piece (piece : Piece) (progress : Progress) (rest : List Char) :
    scan progress (piece.text ++ rest) = scan (piece.follow progress) rest := by
  cases piece with
  | plain c visible noQuote noEscape =>
      have kept : ¬ c.toNat < 0x20 := Nat.not_lt.mpr visible
      rw [Piece.text, List.singleton_append, scan, if_neg kept]
      · rfl
      all_goals grind
  | short letter c escaped =>
      have noUnit : letter ≠ 'u' := by
        rintro rfl
        cases escaped
      rw [Piece.text, List.cons_append, List.singleton_append, scan, escaped]
      · rfl
      all_goals grind
  | unit a b c d value digits =>
      change scan progress ('\\' :: 'u' :: a :: b :: c :: d :: rest) = _
      rw [scan, digits]
      rfl

theorem scan_pieces (pieces : List Piece) (progress : Progress) (rest : List Char) :
    scan progress (pieces.flatMap Piece.text ++ rest) = scan (followAll pieces progress) rest := by
  induction pieces generalizing progress with
  | nil => rfl
  | cons piece more ih =>
      rw [List.flatMap_cons, List.append_assoc, scan_piece, ih]
      rfl

/-- A string is read up to its closing quote. -/
theorem scan_spelled (pieces : List Piece) (rest : List Char) :
    scan (.reading []) (pieces.flatMap Piece.text ++ '"' :: rest) =
      (⟨meaning pieces, none⟩, rest) := by
  rw [scan_pieces, scan]
  rfl

/-- Control characters are written as units of their own. -/
theorem codeUnit?_digitChar {n : Nat} (control : n < 0x20) :
    codeUnit? '0' '0' (Nat.digitChar (n / 16)) (Nat.digitChar (n % 16)) = some n := by
  have all : ∀ n < 0x20,
      codeUnit? '0' '0' (Nat.digitChar (n / 16)) (Nat.digitChar (n % 16)) = some n := by decide
  exact all n control

/-- A character is written as a piece that stands for it. -/
theorem exists_piece_escapedChar (c : Char) :
    ∃ piece : Piece, piece.text = Value.escapedChar c ∧
      ∀ done, piece.follow (.reading done) = .reading (c :: done) := by
  unfold Value.escapedChar
  split
  · next same => exact ⟨.short '"' '"' rfl, rfl, fun done => by rw [same]; rfl⟩
  split
  · next same => exact ⟨.short '\\' '\\' rfl, rfl, fun done => by rw [same]; rfl⟩
  split
  · next same => exact ⟨.short 'n' '\n' rfl, rfl, fun done => by rw [same]; rfl⟩
  split
  · next same => exact ⟨.short 'r' '\r' rfl, rfl, fun done => by rw [same]; rfl⟩
  split
  · next same => exact ⟨.short 't' '\t' rfl, rfl, fun done => by rw [same]; rfl⟩
  split
  · next same => exact ⟨.short 'b' '\x08' rfl, rfl, fun done => by rw [same]; rfl⟩
  split
  · next same => exact ⟨.short 'f' '\x0c' rfl, rfl, fun done => by rw [same]; rfl⟩
  split
  · next control =>
      refine ⟨.unit _ _ _ _ _ (codeUnit?_digitChar control), rfl, fun done => ?_⟩
      have high : Progress.isHigh c.toNat = false := by
        rw [Progress.isHigh, decide_eq_false (by omega), Bool.false_and]
      have low : Progress.isLow c.toNat = false := by
        rw [Progress.isLow, decide_eq_false (by omega), Bool.false_and]
      simp only [Piece.follow, Progress.codeUnit, high, low, Bool.false_eq_true, if_false,
        Char.ofNat_toNat]
  · next noQuote noEscape _ _ _ _ _ visible =>
      exact ⟨.plain c (Nat.not_lt.mp visible) noQuote noEscape, rfl, fun done => rfl⟩

/-- A text is written as pieces that mean it. -/
theorem exists_pieces_renderString (text : String) :
    ∃ pieces, spelled pieces = Value.renderString text ∧ meaning pieces = .ok text := by
  have chars (text done : List Char) : ∃ pieces : List Piece,
      pieces.flatMap Piece.text = text.flatMap Value.escapedChar ∧
        followAll pieces (.reading done) = .reading (text.reverse ++ done) := by
    induction text generalizing done with
    | nil => exact ⟨[], rfl, rfl⟩
    | cons c rest ih =>
        obtain ⟨piece, written, followed⟩ := exists_piece_escapedChar c
        obtain ⟨pieces, writtenRest, followedRest⟩ := ih (c :: done)
        refine ⟨piece :: pieces, ?_, ?_⟩
        · rw [List.flatMap_cons, List.flatMap_cons, written, writtenRest]
        · change followAll pieces (piece.follow (.reading done)) = _
          rw [followed, followedRest, List.reverse_cons, List.append_assoc]
          rfl
  obtain ⟨pieces, written, followed⟩ := chars text.toList []
  refine ⟨pieces, by rw [spelled, Value.renderString, written], ?_⟩
  rw [meaning, followed, Progress.close, List.append_nil, List.reverse_reverse,
    String.ofList_toList]

end StringLiteral

/-! ## Numbers -/

namespace Numeral

/-- One digit or more. -/
structure DigitRun where
  chars : List Char
  ne_nil : chars ≠ []
  isDigit : ∀ c ∈ chars, c.isDigit = true

namespace DigitRun

/-- The digits as numbers. -/
def values (run : DigitRun) : List Nat := run.chars.map fun c => c.toNat - '0'.toNat

end DigitRun

/-- The exponent of a number as it is written. -/
structure ExponentText where
  mark : Char
  isMark : mark = 'e' ∨ mark = 'E'
  /-- The sign, if there is one, and whether it is negative. -/
  sign : Option Bool
  digits : DigitRun

/-- A number as it is written. -/
structure Spelling where
  isNegative : Bool
  whole : DigitRun
  /-- No zero stands before other digits. -/
  canonical : whole.chars = ['0'] ∨ whole.chars.head? ≠ some '0'
  fraction : Option DigitRun
  exponent : Option ExponentText

/-- The sign of an exponent as it is written. -/
def signText : Option Bool → List Char
  | none => []
  | some true => ['-']
  | some false => ['+']

def fractionText : Option DigitRun → List Char
  | none => []
  | some run => '.' :: run.chars

def exponentText : Option ExponentText → List Char
  | none => []
  | some exponent => exponent.mark :: signText exponent.sign ++ exponent.digits.chars

namespace Spelling

/-- The text of a number. -/
def text (spelling : Spelling) : List Char :=
  (if spelling.isNegative then ['-'] else []) ++ (spelling.whole.chars ++
    (fractionText spelling.fraction ++ exponentText spelling.exponent))

/-- The parts that a reader cuts from the text. -/
def numeral (spelling : Spelling) : Numeral where
  isNegative := spelling.isNegative
  whole := spelling.whole.values
  fraction := (spelling.fraction.map DigitRun.values).getD []
  exponent := spelling.exponent.map fun exponent =>
    (exponent.sign == some true, exponent.digits.values)

end Spelling

/-- A text that does not go on with a digit. -/
def NoDigit (rest : List Char) : Prop := ∀ c ∈ rest.head?, c.isDigit = false

/-- A text that does not go on with a number. -/
structure EndsNumeral (rest : List Char) : Prop where
  noDigit : NoDigit rest
  noPoint : '.' ∉ rest.head?
  noMark : 'e' ∉ rest.head? ∧ 'E' ∉ rest.head?

namespace DigitRun

/-- A run of digits begins with a digit and, once read, with its value. -/
theorem exists_cons (run : DigitRun) :
    ∃ c more, run.chars = c :: more ∧ c.isDigit = true ∧
      run.values = (c.toNat - '0'.toNat) :: more.map fun c => c.toNat - '0'.toNat := by
  obtain ⟨c, more, begun⟩ := List.exists_cons_of_ne_nil run.ne_nil
  refine ⟨c, more, begun, run.isDigit c (by simp [begun]), ?_⟩
  rw [values, begun, List.map_cons]

/-- A run of digits is read to its end. -/
theorem digits_chars (run : DigitRun) {rest : List Char} (ends : NoDigit rest) :
    digits (run.chars ++ rest) = (run.values, rest) := by
  have stopped : rest.takeWhile Char.isDigit = [] ∧ rest.dropWhile Char.isDigit = rest := by
    cases rest with
    | nil => exact ⟨rfl, rfl⟩
    | cons c more =>
        have stop : c.isDigit = false := ends c rfl
        simp [stop]
  rw [digits, List.takeWhile_append_of_pos run.isDigit, List.dropWhile_append_of_pos run.isDigit,
    stopped.1, stopped.2, List.append_nil]
  rfl

end DigitRun

theorem ne_of_isDigit {c other : Char} (digit : c.isDigit = true)
    (noDigit : other.isDigit = false) : c ≠ other := by
  rintro rfl
  exact Bool.false_ne_true (noDigit.symm.trans digit)

/-- Digits begin with no sign. -/
theorem sign_of_isDigit {c : Char} (digit : c.isDigit = true) (text : List Char) :
    sign (c :: text) = (false, c :: text) := by
  have noMinus : c ≠ '-' := ne_of_isDigit digit rfl
  rw [sign]
  grind

theorem exponentSign_signText (negative : Option Bool) {c : Char} (digit : c.isDigit = true)
    (text : List Char) :
    exponentSign (signText negative ++ c :: text) = (negative == some true, c :: text) := by
  have noPlus : c ≠ '+' := ne_of_isDigit digit rfl
  match negative with
  | some true => rfl
  | some false => rfl
  | none =>
      change exponentSign (c :: text) = _
      rw [exponentSign, sign_of_isDigit digit]
      · rfl
      · grind

theorem scanExponent_text (exponent : Option ExponentText) {rest : List Char}
    (ends : EndsNumeral rest) :
    scanExponent (exponentText exponent ++ rest) =
      .ok (exponent.map fun exponent => (exponent.sign == some true, exponent.digits.values),
        rest) := by
  cases exponent with
  | none =>
      cases rest with
      | nil => rfl
      | cons c more =>
          have noMark : ¬ (c = 'e' ∨ c = 'E') := by simpa using ends.noMark
          simp [exponentText, scanExponent, noMark]
  | some exponent =>
      obtain ⟨c, more, begun, digit, value⟩ := exponent.digits.exists_cons
      have read := exponent.digits.digits_chars ends.noDigit
      have signed := exponentSign_signText exponent.sign digit (more ++ rest)
      rw [begun, value, List.cons_append] at read
      change scanExponent
        (exponent.mark :: (signText exponent.sign ++ exponent.digits.chars ++ rest)) = _
      rw [begun, List.append_assoc, List.cons_append, scanExponent, if_pos exponent.isMark, signed]
      dsimp only
      rw [read, Option.map_some, value]

theorem scanFraction_text (fraction : Option DigitRun) {rest : List Char}
    (noDigit : NoDigit rest) (noPoint : '.' ∉ rest.head?) :
    scanFraction (fractionText fraction ++ rest) =
      .ok ((fraction.map DigitRun.values).getD [], rest) := by
  cases fraction with
  | none =>
      change scanFraction rest = _
      rw [scanFraction]
      · rfl
      · rintro text rfl
        exact noPoint rfl
  | some run =>
      obtain ⟨c, more, begun, digit, value⟩ := run.exists_cons
      have read := run.digits_chars noDigit
      change scanFraction ('.' :: (run.chars ++ rest)) = _
      rw [scanFraction, read, Option.map_some, Option.getD_some, value]

theorem toNat_of_isDigit {c : Char} (digit : c.isDigit = true) :
    '0'.toNat ≤ c.toNat ∧ c.toNat ≤ '9'.toNat := by
  simpa [Char.isDigit, UInt32.le_iff_toNat_le] using digit

/-- A zero stands alone. -/
theorem scanWhole_text (spelling : Spelling) {rest : List Char} (noDigit : NoDigit rest) :
    scanWhole (spelling.whole.chars ++ rest) = .ok (spelling.whole.values, rest) := by
  rw [scanWhole, spelling.whole.digits_chars noDigit]
  obtain ⟨c, more, begun, digit, value⟩ := spelling.whole.exists_cons
  rw [value]
  rcases spelling.canonical with zero | leading
  · rw [begun, List.cons.injEq] at zero
    rw [zero.1, zero.2]
    rfl
  · have positive : c.toNat - '0'.toNat ≠ 0 := by
      intro vanishes
      have bounds := toNat_of_isDigit digit
      have zero : c = '0' := Char.toNat_inj.mp (by omega)
      exact leading (by rw [begun, List.head?_cons, zero])
    grind

/-- What follows the digits before the point, or the point and its digits, is no digit. -/
theorem noDigit_exponentText (exponent : Option ExponentText) {rest : List Char}
    (ends : EndsNumeral rest) :
    NoDigit (exponentText exponent ++ rest) ∧ '.' ∉ (exponentText exponent ++ rest).head? := by
  cases exponent with
  | none => exact ⟨ends.noDigit, ends.noPoint⟩
  | some exponent =>
      rcases exponent.isMark with small | capital
      · simp [exponentText, NoDigit, small]
      · simp [exponentText, NoDigit, capital]

theorem noDigit_fractionText (fraction : Option DigitRun) {rest : List Char}
    (noDigit : NoDigit rest) : NoDigit (fractionText fraction ++ rest) := by
  cases fraction with
  | none => exact noDigit
  | some run => simp [fractionText, NoDigit]

/-- A number is read to its end. -/
theorem scan_spelling (spelling : Spelling) {rest : List Char} (ends : EndsNumeral rest) :
    scan (spelling.text ++ rest) = .ok (spelling.numeral, rest) := by
  obtain ⟨noDigit, noPoint⟩ := noDigit_exponentText spelling.exponent ends
  have whole := scanWhole_text spelling (noDigit_fractionText spelling.fraction noDigit)
  have fraction := scanFraction_text spelling.fraction noDigit noPoint
  have exponent := scanExponent_text spelling.exponent ends
  have signed : sign (spelling.text ++ rest) = (spelling.isNegative, spelling.whole.chars ++
      (fractionText spelling.fraction ++ (exponentText spelling.exponent ++ rest))) := by
    obtain ⟨c, more, begun, digit, -⟩ := spelling.whole.exists_cons
    rw [Spelling.text, List.append_assoc, List.append_assoc, List.append_assoc]
    cases spelling.isNegative with
    | true => rfl
    | false =>
        rw [begun]
        exact sign_of_isDigit digit _
  simp only [scan, signed, whole, fraction, exponent, bind, Except.bind, pure, Except.pure]
  rfl

/-! ### Whole numbers -/

/-- The number that some digits write, going on from a number. -/
def appended (number : Nat) (digits : List Nat) : Nat :=
  digits.foldl (fun number digit => number * 10 + digit) number

theorem le_appended (number : Nat) (digits : List Nat) : number ≤ appended number digits := by
  induction digits generalizing number with
  | nil => exact Nat.le_refl number
  | cons digit rest ih =>
      have grown : number ≤ number * 10 + digit := by omega
      exact Nat.le_trans grown (ih _)

/-- Digits are put together as long as the number that they write fits. -/
theorem gather_of_le {limit number : Nat} {digits : List Nat}
    (fits : appended number digits ≤ limit) :
    gather limit number digits = (appended number digits, []) := by
  induction digits generalizing number with
  | nil => rfl
  | cons digit rest ih =>
      have first : number * 10 + digit ≤ limit := Nat.le_trans (le_appended _ rest) fits
      rw [gather, if_pos first, ih fits]
      rfl

theorem head?_toDigits_ne_zero {n : Nat} (positive : 0 < n) :
    (Nat.toDigits 10 n).head? ≠ some '0' := by
  induction n using Nat.strongRecOn with
  | ind n ih =>
      by_cases small : n < 10
      · have all : ∀ digit < 10, 0 < digit → [Nat.digitChar digit].head? ≠ some '0' := by decide
        rw [Nat.toDigits_of_lt_base small]
        exact all n small positive
      · have shorter := ih (n / 10) (by omega) (by omega)
        obtain ⟨c, more, begun⟩ := List.exists_cons_of_ne_nil
          (Nat.toDigits_ne_nil (n := n / 10) (b := 10))
        rw [begun] at shorter
        rw [Nat.toDigits_of_base_le (by decide) (by omega), begun]
        exact shorter

/-- The digits of a natural number. -/
def digitsOf (n : Nat) : DigitRun where
  chars := Nat.toDigits 10 n
  ne_nil := Nat.toDigits_ne_nil
  isDigit _ member := Nat.isDigit_of_mem_toDigits (by decide) (by decide) member

theorem appended_digitsOf (n : Nat) : appended 0 (digitsOf n).values = n := by
  have written := Nat.ofDigitChars_toDigits (b := 10) (n := n) (by decide) (by decide)
  rw [Nat.ofDigitChars_eq_foldl] at written
  rw [appended, DigitRun.values, List.foldl_map]
  simpa [digitsOf, Nat.mul_comm] using written

/-- A whole number as it is written. -/
def ofInt (value : Int) : Spelling where
  isNegative := decide (value < 0)
  whole := digitsOf value.natAbs
  canonical := by
    by_cases zero : value.natAbs = 0
    · rw [digitsOf, zero]
      exact .inl (Nat.toDigits_zero 10)
    · exact .inr (head?_toDigits_ne_zero (Nat.pos_of_ne_zero zero))
  fraction := none
  exponent := none

theorem text_ofInt (value : Int) : (ofInt value).text = Value.renderInteger value := by
  rw [Spelling.text, Value.renderInteger]
  by_cases negative : value < 0
  · simp [ofInt, digitsOf, fractionText, exponentText, negative]
  · simp [ofInt, digitsOf, fractionText, exponentText, negative]

/-- Whole numbers of one word are read exactly. -/
theorem value_ofInt {value : Int} (lower : -0x8000000000000000 ≤ value) (upper : value ≤ maxWord) :
    (ofInt value).numeral.value =
      .ok (if value < 0 then .negative value else .natural value.toNat) := by
  have fits : value.natAbs ≤ maxWord := by
    unfold maxWord at *
    omega
  have word : (ofInt value).numeral.wholeWord? = some value.natAbs := by
    have gathered :
        gather maxWord 0 (digitsOf value.natAbs).values = (value.natAbs, []) := by
      rw [gather_of_le (by rwa [appended_digitsOf]), appended_digitsOf]
    simp only [wholeWord?, Spelling.numeral, ofInt, Option.map_none, Option.getD_none]
    rw [gathered]
  rw [Numeral.value, word]
  by_cases negative : value < 0
  · have range : 0 < value.natAbs ∧ value.natAbs ≤ 0x8000000000000000 := by omega
    have same : -(value.natAbs : Int) = value := by omega
    have sign : (ofInt value).numeral.isNegative = true := decide_eq_true negative
    simp only [sign, Bool.not_true, Bool.false_eq_true, if_false, if_pos range, same,
      if_pos negative]
  · have same : value.natAbs = value.toNat := by omega
    have sign : (ofInt value).numeral.isNegative = false := decide_eq_false negative
    simp only [sign, Bool.not_false, if_true, same, if_neg negative]

end Numeral
end LedMatrix.Json
