import KeySheet.Sheet.Layout

/-! The shifts of a sheet and its headers. The scan for shifts cuts the text into other lines than
the layout does, at its end and at carriage returns; yet it finds the shifts that the headers of
the layout name, in their order. -/
namespace KeySheet.Sheet

/-- The words of a text: what is left of it between white space. -/
def words (cs : List Char) : List (List Char) :=
  (Text.parts Text.isBlank cs).filter (fun word => !word.isEmpty)

def Line.header? : Line → Option (List Char)
  | .metadata text => some text
  | _ => none

/-- The headers that a sheet is shown with. -/
def headers (lines : Layout) : List (List Char) := lines.filterMap Line.header?

/-- The value of a header: its first word behind the mark, as an integer of 32 bits. -/
def namedShift (header : List Char) : Option Int :=
  ((words ((Text.trim header).drop headerMark.length)).head?).bind
    (Text.readSigned (-2147483648) 2147483647)

/-! ## Words -/

/-- The first piece of a text goes up to the first cut. -/
theorem parts_head? (cuts : Char → Bool) (cs : List Char) :
    (Text.parts cuts cs).head? = some (cs.takeWhile (fun c => !cuts c)) := by
  induction cs with
  | nil => rfl
  | cons c cs ih =>
      rw [Text.parts, List.takeWhile_cons]
      cases cut : cuts c with
      | true => rfl
      | false =>
          cases pieces : Text.parts cuts cs with
          | nil => exact absurd pieces (Text.parts_ne_nil cuts cs)
          | cons p ps =>
              rw [pieces] at ih
              have first : p = cs.takeWhile (fun c => !cuts c) := Option.some.inj ih
              rw [first]
              rfl

theorem firstWord_eq (cs : List Char) : Text.firstWord cs = (words cs).head? := by
  induction cs with
  | nil => rfl
  | cons c cs ih =>
      cases blank : Text.isBlank c with
      | true =>
          have same : words (c :: cs) = words cs := by
            rw [words, Text.parts, if_pos blank]
            rfl
          rw [same, ← ih, Text.firstWord, Text.trimStart_cons, if_pos blank]
          rfl
      | false =>
          have front : Text.trimStart (c :: cs) = c :: cs := by
            rw [Text.trimStart_cons, blank]
            rfl
          have first := parts_head? Text.isBlank (c :: cs)
          rw [List.takeWhile_cons, blank] at first
          obtain ⟨rest, pieces⟩ := List.head?_eq_some_iff.mp first
          rw [Text.firstWord, front, List.takeWhile_cons, blank, words, pieces]
          rfl

/-! ## Lines -/

theorem trim_dropReturn (line : List Char) : Text.trim (Text.dropReturn line) = Text.trim line := by
  unfold Text.dropReturn
  split
  · next ends =>
      obtain ⟨front, rfl⟩ := List.getLast?_eq_some_iff.mp ends
      rw [List.dropLast_concat, Text.trim_concat rfl]
  · rfl

theorem rows_eq {text last : List Char} {front : List (List Char)}
    (cut : Text.pieces text = front ++ [last]) :
    Text.rows text = front.map Text.dropReturn ++ if last = [] then [] else [last] := by
  rw [Text.rows, cut, List.dropLast_concat, List.getLast?_concat]
  cases last with
  | nil => rfl
  | cons c p => rfl

/-- The lines of a scan and those of the layout give the same, if neither an empty line nor a
carriage return at the end of one counts. -/
theorem rows_filterMap {α : Type} (f : List Char → Option α) (empty : f [] = none)
    (ending : ∀ line, f (Text.dropReturn line) = f line) (text : List Char) :
    (Text.rows text).filterMap f = (sourceLines text).filterMap f := by
  obtain ⟨front, last, cut⟩ : ∃ front last, Text.pieces text = front ++ [last] :=
    ⟨_, _, (List.dropLast_concat_getLast (Text.pieces_ne_nil text)).symm⟩
  have final : (if last = [] then [] else [last]).filterMap f = [last].filterMap f := by
    split
    · next none => rw [none, List.filterMap_cons_none empty]
    · rfl
  have behind : [Text.dropReturn last].filterMap f = [last].filterMap f := by
    rw [List.filterMap_cons, ending, List.filterMap_cons]
  rw [rows_eq cut, sourceLines, cut, List.map_append, List.filterMap_append,
    List.filterMap_append, final, List.map_singleton, behind]

/-! ## Shifts -/

theorem headerShift_eq (line : List Char) :
    headerShift line =
      if headerMark.isPrefixOf (Text.trim line) then namedShift line else none := by
  unfold headerShift namedShift
  generalize Text.trim line = bare
  split
  · next header =>
      obtain ⟨rest, rfl⟩ := List.isPrefixOf_iff_prefix.mp header
      rw [Text.stripHead_eq_some_iff.mpr rfl, List.drop_left, ← firstWord_eq]
      rfl
  · next other =>
      cases cut : Text.stripHead headerMark bare with
      | none => rfl
      | some rest =>
          refine absurd ?_ other
          exact List.isPrefixOf_iff_prefix.mpr ⟨rest, (Text.stripHead_eq_some_iff.mp cut).symm⟩

theorem headerShift_dropReturn (line : List Char) :
    headerShift (Text.dropReturn line) = headerShift line := by
  unfold headerShift
  rw [trim_dropReturn]

theorem classify_header (line : List Char) :
    (classify line).header? =
      if headerMark.isPrefixOf (Text.trim line) then some line else none := by
  rw [classify]
  generalize Text.trim line = bare
  cases headerMark.isPrefixOf bare <;> cases bare.isEmpty <;>
    cases commentMark.isPrefixOf bare <;> rfl

theorem headers_eq (text : List Char) :
    headers (layout text) =
      (sourceLines text).filter (fun line => headerMark.isPrefixOf (Text.trim line)) := by
  rw [headers, layout_filterMap _ rfl, ← List.filterMap_eq_filter]
  refine congrArg (List.filterMap · _) ?_
  funext line
  rw [classify_header, Option.guard]

/-- The shifts of a text are those that the headers of its layout name, in their order, and each of
these headers bears the mark. -/
theorem transposes_of_headers (text : List Char) :
    transposes text = (headers (layout text)).filterMap namedShift ∧
      ∀ header ∈ headers (layout text), headerMark <+: Text.trim header := by
  constructor
  · rw [transposes, rows_filterMap headerShift (by decide) headerShift_dropReturn, headers_eq,
      List.filterMap_filter]
    refine congrArg (List.filterMap · _) ?_
    funext line
    exact headerShift_eq line
  · intro header member
    rw [headers_eq] at member
    exact List.isPrefixOf_iff_prefix.mp (List.mem_filter.mp member).2

/-- Two shifts. A lone carriage return ends no line, and the last line may keep its own. -/
def shiftText : List Char :=
  "Transpose by:\r 7\r\n Transpose by: up\n\nTranspose by: +2 3\r".toList

theorem transposes_of_shiftText :
    transposes shiftText = [7, 2] ∧ (headers (layout shiftText)).length = 3 ∧
      (headers (layout shiftText)).filterMap namedShift = [7, 2] := by
  have shifts : transposes shiftText = [7, 2] := by decide +kernel
  exact ⟨shifts, by decide +kernel, (transposes_of_headers shiftText).1.symm.trans shifts⟩

end KeySheet.Sheet
