/-
# Pieces of a text

A text that lists things puts the same character between them. Cutting it there
always gives at least one piece, so an empty text is one empty piece and a
character at the end is followed by one.
-/

namespace LedMatrix.Text

/-- The pieces of a text between the places where a character stands. -/
def piecesAt (separator : Char) : List Char → List (List Char)
  | [] => [[]]
  | c :: rest =>
      if c = separator then [] :: piecesAt separator rest
      else
        match piecesAt separator rest with
        | [] => [[c]]
        | piece :: pieces => (c :: piece) :: pieces

/-- The text before the first place where a character stands, and the text after
it if there is such a place. -/
def cutAtFirst (separator : Char) (text : List Char) : List Char × Option (List Char) :=
  (text.takeWhile (· ≠ separator), (text.dropWhile (· ≠ separator)).tail?)

/-- The text before the last place where a character stands and the text after
it, if there is such a place. -/
def cutAtLast? (separator : Char) (text : List Char) : Option (List Char × List Char) :=
  match cutAtFirst separator text.reverse with
  | (back, some front) => some (front.reverse, back.reverse)
  | (_, none) => none

/-- There is always a piece. -/
theorem piecesAt_ne_nil (separator : Char) (text : List Char) : piecesAt separator text ≠ [] := by
  cases text with
  | nil => simp [piecesAt]
  | cons c rest =>
      rw [piecesAt]
      split
      · simp
      · split <;> simp

section Cuts

variable {separator : Char} {text piece : List Char} {pieces : List (List Char)}

/-- A text without the character is one piece. -/
theorem piecesAt_of_notMem (whole : separator ∉ text) : piecesAt separator text = [text] := by
  induction text with
  | nil => rfl
  | cons c rest ih =>
      have other : c ≠ separator := fun same => whole (same ▸ List.mem_cons_self)
      rw [piecesAt, if_neg other, ih fun member => whole (List.mem_cons_of_mem c member)]

/-- A text with the character is cut where it stands first. -/
theorem piecesAt_append_cons (without : separator ∉ piece) (rest : List Char) :
    piecesAt separator (piece ++ separator :: rest) = piece :: piecesAt separator rest := by
  induction piece with
  | nil => rw [List.nil_append, piecesAt, if_pos rfl]
  | cons c front ih =>
      have other : c ≠ separator := fun same => without (same ▸ List.mem_cons_self)
      rw [List.cons_append, piecesAt, if_neg other,
        ih fun member => without (List.mem_cons_of_mem c member)]

/-- The first piece ends with the text or where the character stands. -/
theorem of_piecesAt_eq_cons (cut : piecesAt separator text = piece :: pieces) :
    separator ∉ piece ∧
      (pieces = [] ∧ text = piece ∨
        ∃ rest, text = piece ++ separator :: rest ∧ piecesAt separator rest = pieces) := by
  induction text generalizing piece with
  | nil =>
      obtain ⟨rfl, rfl⟩ := List.cons.inj cut
      exact ⟨List.not_mem_nil, .inl ⟨rfl, rfl⟩⟩
  | cons c rest ih =>
      rw [piecesAt] at cut
      by_cases here : c = separator
      · rw [if_pos here] at cut
        obtain ⟨rfl, rfl⟩ := List.cons.inj cut
        exact ⟨List.not_mem_nil, .inr ⟨rest, by rw [here, List.nil_append], rfl⟩⟩
      · rw [if_neg here] at cut
        cases further : piecesAt separator rest with
        | nil => exact absurd further (piecesAt_ne_nil separator rest)
        | cons first others =>
            rw [further] at cut
            obtain ⟨rfl, rfl⟩ := List.cons.inj cut
            obtain ⟨without, ends⟩ := ih further
            refine ⟨fun member => ?_, ?_⟩
            · rcases List.mem_cons.mp member with same | later
              · exact here same.symm
              · exact without later
            · rcases ends with ⟨last, rfl⟩ | ⟨after, rfl, cutAfter⟩
              · exact .inl ⟨last, rfl⟩
              · exact .inr ⟨after, rfl, cutAfter⟩

/-- The pieces with the character between them are the text, and it stands in none of
them. -/
theorem intercalate_piecesAt (separator : Char) (text : List Char) :
    [separator].intercalate (piecesAt separator text) = text ∧
      ∀ piece ∈ piecesAt separator text, separator ∉ piece := by
  generalize cut : piecesAt separator text = pieces
  induction pieces generalizing text with
  | nil => exact absurd cut (piecesAt_ne_nil separator text)
  | cons piece rest ih =>
      obtain ⟨without, ends⟩ := of_piecesAt_eq_cons cut
      rcases ends with ⟨rfl, rfl⟩ | ⟨after, rfl, cutAfter⟩
      · exact ⟨List.intercalate_singleton, List.forall_mem_singleton.mpr without⟩
      · obtain ⟨joined, others⟩ := ih after cutAfter
        have further : rest ≠ [] := cutAfter ▸ piecesAt_ne_nil separator after
        refine ⟨?_, List.forall_mem_cons.mpr ⟨without, others⟩⟩
        rw [List.intercalate_cons_of_ne_nil further, joined, List.append_assoc]
        rfl

/-- Parts in which the character does not stand are the pieces of the text that has it
between them. -/
theorem piecesAt_intercalate {separator : Char} {parts : List (List Char)} (some_part : parts ≠ [])
    (without : ∀ part ∈ parts, separator ∉ part) :
    piecesAt separator ([separator].intercalate parts) = parts := by
  induction parts with
  | nil => exact absurd rfl some_part
  | cons part rest ih =>
      obtain ⟨part_without, rest_without⟩ := List.forall_mem_cons.mp without
      cases rest with
      | nil => rw [List.intercalate_singleton, piecesAt_of_notMem part_without]
      | cons next others =>
          rw [List.intercalate_cons_cons, List.append_assoc, List.singleton_append,
            piecesAt_append_cons part_without, ih (List.cons_ne_nil next others) rest_without]

/-- After a character at the end there is one more piece, and it is empty. -/
theorem piecesAt_concat_self (separator : Char) (text : List Char) :
    piecesAt separator (text ++ [separator]) = piecesAt separator text ++ [[]] := by
  induction text with
  | nil => simp [piecesAt]
  | cons c rest ih =>
      rw [List.cons_append, piecesAt, piecesAt, ih]
      split
      · rfl
      · cases pieces : piecesAt separator rest with
        | nil => exact absurd pieces (piecesAt_ne_nil separator rest)
        | cons piece others => rfl

/-- The pieces before some piece make up the text before it, each followed by the
character. -/
theorem of_piecesAt_eq_append {earlier : List (List Char)}
    (cut : piecesAt separator text = earlier ++ piece :: pieces) :
    (∀ line ∈ earlier, separator ∉ line) ∧
      ∃ rest, text = earlier.flatMap (· ++ [separator]) ++ rest ∧
        piecesAt separator rest = piece :: pieces := by
  induction earlier generalizing text with
  | nil => exact ⟨fun line member => absurd member List.not_mem_nil, text, rfl, cut⟩
  | cons first others ih =>
      rw [List.cons_append] at cut
      obtain ⟨without, ends⟩ := of_piecesAt_eq_cons cut
      rcases ends with ⟨none_left, -⟩ | ⟨after, rfl, cutAfter⟩
      · exact absurd none_left (by simp)
      · obtain ⟨others_without, rest, rfl, cutRest⟩ := ih cutAfter
        exact ⟨List.forall_mem_cons.mpr ⟨without, others_without⟩, rest, by simp, cutRest⟩

end Cuts

end LedMatrix.Text
