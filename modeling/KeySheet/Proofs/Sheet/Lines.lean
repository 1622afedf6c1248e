import KeySheet.Sheet.Layout
import Mathlib.Data.List.Forall2

/-! The lines of a text, told by what they are and not by how they are found: pieces without a
newline, which joined by newlines are the text, and from the end of each, if it has one there, one
carriage return is taken. There is one such list of lines, and the layout is made from it. -/
namespace KeySheet.Sheet

/-- A piece of a text is a line and perhaps a carriage return, which the line does not keep. -/
inductive Returned : List Char → List Char → Prop
  | kept {line} : line.getLast? ≠ some '\r' → Returned line line
  | dropped {line} : Returned (line ++ ['\r']) line

/-- The lines of a text. -/
def IsLines (text : List Char) (lines : List (List Char)) : Prop :=
  ∃ pieces, (∀ piece ∈ pieces, '\n' ∉ piece) ∧ pieces ≠ [] ∧
    ['\n'].intercalate pieces = text ∧ List.Forall₂ Returned pieces lines

variable {text piece line : List Char} {lines : List (List Char)}

theorem returned_iff : Returned piece line ↔ line = Text.dropReturn piece := by
  constructor
  · intro h
    cases h with
    | kept other =>
        unfold Text.dropReturn
        split
        · next ends => exact absurd ends other
        · rfl
    | dropped => simp [Text.dropReturn]
  · rintro rfl
    unfold Text.dropReturn
    split
    · next ends =>
        obtain ⟨front, rfl⟩ := List.getLast?_eq_some_iff.mp ends
        rw [List.dropLast_concat]
        exact .dropped
    · next other => exact .kept other

/-- Every text has its lines, and no others. -/
theorem isLines_iff : IsLines text lines ↔ lines = sourceLines text := by
  have lined (pieces : List (List Char)) :
      List.Forall₂ Returned pieces lines ↔ lines = pieces.map Text.dropReturn := by
    have same : Returned = fun piece line => Text.dropReturn piece = line := by
      funext piece line
      exact propext (returned_iff.trans eq_comm)
    rw [same, ← List.forall₂_map_left_iff, List.forall₂_eq_eq_eq, eq_comm]
  constructor
  · rintro ⟨pieces, free, filled, rfl, returned⟩
    rw [sourceLines, Text.pieces, Text.parts_intercalate filled free]
    exact (lined pieces).mp returned
  · intro same
    exact ⟨Text.pieces text, fun piece member => Text.not_mem_parts '\n' member,
      Text.pieces_ne_nil text, Text.intercalate_pieces text, (lined _).mpr same⟩

end KeySheet.Sheet
