/-
# Texts as bytes

The bytes of a text are the bytes of its characters one after the other
(`toUtf8_eq_encode`), and they are read back as the same text (`ofUtf8_encode`).
A byte that ends a line stands for the end of a line and is no part of another
character (`newline_notMem_encode`), so the lines of a text can be found among its
bytes.

A text that is cut after some number of bytes is a text again exactly if the cut
falls between two characters (`ofUtf8_take_of_cutBetween`,
`ofUtf8_take_of_not_cutBetween`).
-/

import LedMatrix.Text.Utf8

namespace LedMatrix.Text

/-- The bytes of characters, one after the other. -/
def encode (text : List Char) : List UInt8 := text.flatMap String.utf8EncodeChar

@[simp] theorem encode_nil : encode [] = [] := rfl

@[simp] theorem encode_append (text rest : List Char) :
    encode (text ++ rest) = encode text ++ encode rest := List.flatMap_append

theorem encode_cons (c : Char) (rest : List Char) :
    encode (c :: rest) = String.utf8EncodeChar c ++ encode rest := rfl

@[simp] theorem encode_newline : encode ['\n'] = [10] := rfl

/-- Lines in one text are lines in one stream. -/
theorem encode_intercalate (between : List Char) (lines : List (List Char)) :
    encode (between.intercalate lines) = (encode between).intercalate (lines.map encode) := by
  induction lines with
  | nil => rfl
  | cons line rest ih =>
      cases rest with
      | nil => rw [List.map_singleton, List.intercalate_singleton, List.intercalate_singleton]
      | cons next rest =>
          rw [List.map_cons, List.map_cons, List.intercalate_cons_cons, List.intercalate_cons_cons,
            encode_append, encode_append, ih, List.map_cons]

theorem length_encode_replicate (count : Nat) (c : Char) :
    (encode (List.replicate count c)).length = count * c.utf8Size := by
  induction count with
  | zero => rw [List.replicate_zero, encode_nil, List.length_nil, Nat.zero_mul]
  | succ count ih =>
      rw [List.replicate_succ, encode_cons, List.length_append, String.length_utf8EncodeChar, ih,
        Nat.succ_mul, Nat.add_comm]

theorem toByteArray_encode (text : List Char) : (encode text).toByteArray = text.utf8Encode := rfl

/-- Listing the bytes of an array from some place on. -/
private theorem toList_loop (bytes : ByteArray) (place : Nat) (listed : List UInt8) :
    ByteArray.toList.loop bytes place listed =
      listed.reverse ++ bytes.data.toList.drop place := by
  fun_induction ByteArray.toList.loop bytes place listed with
  | case1 place listed inside ih =>
      have bound : place < bytes.data.toList.length := by simpa using inside
      have here : bytes.get! place = bytes.data.toList[place] := by
        simp [ByteArray.get!, inside]
      rw [ih, List.drop_eq_getElem_cons bound, List.reverse_cons, List.append_assoc, here]
      rfl
  | case2 place listed outside =>
      have beyond : bytes.data.toList.length ≤ place := by simpa using Nat.le_of_not_lt outside
      rw [List.drop_eq_nil_of_le beyond, List.append_nil]

theorem toUtf8_eq_encode (text : String) : toUtf8 text = encode text.toList := by
  have bytes : text.toUTF8 = (encode text.toList).toByteArray := by
    rw [toByteArray_encode, String.utf8Encode_toList]
    rfl
  rw [toUtf8, ByteArray.toList, toList_loop, List.reverse_nil, List.nil_append, List.drop_zero,
    bytes, List.toList_data_toByteArray]

/-- Characters are read back from their bytes. -/
theorem ofUtf8_encode (text : List Char) : ofUtf8 (encode text) = some (String.ofList text) := by
  have valid : (encode text).toByteArray.IsValidUTF8 := ByteArray.isValidUTF8_utf8Encode
  rw [ofUtf8, String.fromUTF8?, dif_pos valid]
  exact congrArg some (String.toByteArray_inj.mp (String.toByteArray_ofList).symm)

/-- The bytes of a text that was read are the bytes that it was read from. -/
theorem encode_of_ofUtf8 {bytes : List UInt8} {text : String} (read : ofUtf8 bytes = some text) :
    encode text.toList = bytes := by
  rw [ofUtf8, String.fromUTF8?] at read
  split at read
  · obtain rfl := Option.some.inj read
    rw [← toUtf8_eq_encode, toUtf8, ByteArray.toList, toList_loop, List.reverse_nil,
      List.nil_append, List.drop_zero]
    exact List.toList_data_toByteArray
  · cases read

/-- Bytes that begin with those of some characters are the bytes of a text that begins
with these characters. -/
theorem isPrefix_of_encode_append {front text : List Char} {rest : List UInt8}
    (bytes : encode front ++ rest = encode text) : front <+: text := by
  refine List.isPrefix_of_utf8Encode_append_eq_utf8Encode rest.toByteArray ?_
  rw [← toByteArray_encode, ← toByteArray_encode, ← List.toByteArray_append, bytes]

/-! ## Ends of lines -/

/-- The byte that ends a line belongs to the one character that does. -/
theorem newline_notMem_utf8EncodeChar {c : Char} (other : c ≠ '\n') :
    (10 : UInt8) ∉ String.utf8EncodeChar c := by
  intro member
  obtain ⟨place, inside, found⟩ := List.mem_iff_getElem.mp member
  have first : (String.utf8EncodeChar c)[place].IsUTF8FirstByte := by
    rw [found]
    decide
  obtain rfl := UInt8.isUTF8FirstByte_getElem_utf8EncodeChar.mp first
  have bytes : encode ['\n'] ++ (String.utf8EncodeChar c).drop 1 = encode [c] := by
    have whole := List.drop_eq_getElem_cons inside
    rw [found, List.drop_zero] at whole
    rw [encode_newline, encode, List.flatMap_singleton]
    exact whole.symm
  have same : '\n' ∈ [c] := (isPrefix_of_encode_append bytes).subset List.mem_cons_self
  exact other (List.mem_singleton.mp same).symm

theorem newline_notMem_encode {text : List Char} (single : '\n' ∉ text) :
    (10 : UInt8) ∉ encode text := by
  intro member
  obtain ⟨c, listed, inside⟩ := List.mem_flatMap.mp member
  refine newline_notMem_utf8EncodeChar ?_ inside
  rintro rfl
  exact single listed

/-- A text whose bytes end with the end of a line ends with it. -/
theorem exists_of_encode_eq_concat_newline {text : List Char} {bytes : List UInt8}
    (whole : encode text = bytes ++ [10]) : ∃ front, encode front = bytes := by
  rcases List.eq_nil_or_concat text with rfl | ⟨front, last, rfl⟩
  · exact absurd whole.symm (List.concat_ne_nil _ _)
  · rw [List.concat_eq_append, encode_append] at whole
    have here : (10 : UInt8) ∈ String.utf8EncodeChar last := by
      rcases List.eq_nil_or_concat (String.utf8EncodeChar last) with empty | ⟨first, byte, ends⟩
      · exact absurd empty String.utf8EncodeChar_ne_nil
      · rw [encode, encode, List.flatMap_singleton, ends, List.concat_eq_append,
          ← List.append_assoc] at whole
        obtain rfl := List.singleton_inj.mp (List.append_inj_right' whole rfl)
        rw [ends, List.concat_eq_append]
        exact List.mem_append_right first List.mem_cons_self
    obtain rfl : last = '\n' := Decidable.byContradiction fun other =>
      newline_notMem_utf8EncodeChar other here
    exact ⟨front, List.append_cancel_right whole⟩

/-- The end of a line makes no text of bytes that are none. -/
theorem ofUtf8_concat_newline {bytes : List UInt8} (unread : ofUtf8 bytes = none) :
    ofUtf8 (bytes ++ [10]) = none := by
  cases read : ofUtf8 (bytes ++ [10]) with
  | none => rfl
  | some text =>
      obtain ⟨front, rfl⟩ := exists_of_encode_eq_concat_newline (encode_of_ofUtf8 read)
      rw [ofUtf8_encode] at unread
      cases unread

/-! ## Cuts -/

/-- A cut after so many bytes of a text falls between two of its characters, or at one
of its ends. -/
def CutBetween (text : List Char) (bytes : Nat) : Prop :=
  ∃ front, front <+: text ∧ (encode front).length = bytes

/-- What lies before a cut between two characters is a text. -/
theorem ofUtf8_take_of_cutBetween {text : List Char} {bytes : Nat}
    (between : CutBetween text bytes) : (ofUtf8 ((encode text).take bytes)).isSome := by
  obtain ⟨front, ⟨rest, rfl⟩, rfl⟩ := between
  rw [encode_append, List.take_left, ofUtf8_encode]
  rfl

/-- What lies before a cut inside a character is no text. -/
theorem ofUtf8_take_of_not_cutBetween {text : List Char} {bytes : Nat}
    (inside : bytes ≤ (encode text).length) (within : ¬ CutBetween text bytes) :
    ofUtf8 ((encode text).take bytes) = none := by
  rw [ofUtf8, String.fromUTF8?, dif_neg]
  rintro ⟨front, valid⟩
  have same : (encode text).take bytes = encode front := by
    rw [← List.toList_data_toByteArray (l := (encode text).take bytes), valid,
      ← toByteArray_encode, List.toList_data_toByteArray]
  refine within ⟨front, ?_, ?_⟩
  · have whole := List.take_append_drop bytes (encode text)
    rw [same] at whole
    exact isPrefix_of_encode_append whole
  · rw [← same, List.length_take_of_le inside]

end LedMatrix.Text
