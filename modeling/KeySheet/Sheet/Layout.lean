import KeySheet.Sheet.Separator
import KeySheet.Text.Blank
import KeySheet.Text.Rows

/-! A sheet text line by line: headers, comments, blank lines and content. A content line is cut
into chord spans, each up to and including its separator, and every character gets one colour. The
headers name shifts. -/
namespace KeySheet.Sheet

/-- A sheet as the converter sends it. -/
structure Score where
  text : String
  /-- The name that the converter would save it under. -/
  fileName : Option String
  deriving DecidableEq, Repr

structure Glyph where
  char : Char
  duration : Duration
  /-- Part of a colon mark. -/
  outOfRange : Bool
  deriving DecidableEq, Repr

/-- The characters of a chord and of the separator that ends it. -/
abbrev Span := List Glyph

inductive Line where
  /-- A transposition header, kept as written. -/
  | metadata (text : List Char)
  /-- A comment, kept as written. -/
  | comment (text : List Char)
  | blank
  | content (spans : List Span)
  deriving DecidableEq, Repr

abbrev Layout := List Line

/-- What a transposition header begins with. -/
def headerMark : List Char := "Transpose by:".toList

/-- What a comment begins with. -/
def commentMark : List Char := "<!--".toList

def paint (duration : Duration) (chars : List (Char × Bool)) : Span :=
  chars.map (fun p => ⟨p.1, duration, p.2⟩)

/-- Cuts the marked characters of a line, of which the first has offset `start`, behind each
separator. What follows the last one has its colour too: `last`. -/
def cutSpans (start : Nat) (last : Duration) : List Separator → List (Char × Bool) → List Span
  | [], [] => []
  | [], rest => [paint last rest]
  | s :: seps, rest =>
      paint s.duration (rest.take (s.stop - start)) ::
        cutSpans s.stop s.duration seps (rest.drop (s.stop - start))

/-- The spans of a content line; without any separator the line is one span of colour `long`. -/
def chordSpans (line : List Char) : List Span :=
  cutSpans 0 .long (separators line) (line.zip (outOfRangeMarks line))

/-- What a line is by its trimmed form. -/
def classify (line : List Char) : Line :=
  let bare := Text.trim line
  if headerMark.isPrefixOf bare then .metadata line
  else if bare.isEmpty then .blank
  else if commentMark.isPrefixOf bare then .comment line
  else .content (chordSpans line)

/-- Classifies lines in order. `afterHeader` tells that the line before was a header: one blank
line directly behind a header is dropped. -/
def layoutLines (afterHeader : Bool) : List (List Char) → Layout
  | [] => []
  | line :: rest =>
      match classify line with
      | .metadata text => .metadata text :: layoutLines true rest
      | .blank => if afterHeader then layoutLines false rest else .blank :: layoutLines false rest
      | other => other :: layoutLines false rest

/-- The lines between the newlines of a text, without their line endings. -/
def sourceLines (text : List Char) : List (List Char) := (Text.pieces text).map Text.dropReturn

/-- The layout of a sheet text; the empty text has no lines. -/
def layout (text : List Char) : Layout :=
  if text.isEmpty then [] else layoutLines false (sourceLines text)

/-- What is read off the lines of a layout, blank ones not counting, is read off its text. -/
theorem layoutLines_filterMap {α : Type} (f : Line → Option α) (blank : f .blank = none)
    (afterHeader : Bool) (lines : List (List Char)) :
    (layoutLines afterHeader lines).filterMap f =
      lines.filterMap (fun line => f (classify line)) := by
  induction lines generalizing afterHeader with
  | nil => rfl
  | cons line rest ih =>
      rw [layoutLines, List.filterMap_cons]
      cases kind : classify line with
      | blank =>
          rw [blank]
          cases afterHeader with
          | true => exact ih false
          | false =>
              show (Line.blank :: layoutLines false rest).filterMap f = _
              rw [List.filterMap_cons_none blank]
              exact ih false
      | metadata text => rw [List.filterMap_cons, ih]
      | comment text => rw [List.filterMap_cons, ih]
      | content spans => rw [List.filterMap_cons, ih]

theorem layout_filterMap {α : Type} (f : Line → Option α) (blank : f .blank = none)
    (text : List Char) :
    (layout text).filterMap f = (sourceLines text).filterMap (fun line => f (classify line)) := by
  unfold layout
  split
  · next empty =>
      obtain rfl := List.isEmpty_iff.mp empty
      exact (List.filterMap_cons_none blank).symm
  · exact layoutLines_filterMap f blank false _

/-- A line of a layout is blank or a line of the text. -/
theorem mem_layout {text : List Char} {line : Line} (member : line ∈ layout text) :
    line = .blank ∨ ∃ source ∈ sourceLines text, line = classify source := by
  by_cases none : line = .blank
  · exact .inl none
  · right
    have kept : line ∈ (layout text).filterMap
        (fun l => if l = .blank then Option.none else some l) :=
      List.mem_filterMap.mpr ⟨line, member, if_neg none⟩
    rw [layout_filterMap _ (if_pos rfl)] at kept
    obtain ⟨source, here, same⟩ := List.mem_filterMap.mp kept
    refine ⟨source, here, ?_⟩
    split at same
    · cases same
    · exact (Option.some.inj same).symm

/-- The value of a header line, when its first word is an integer of 32 bits. -/
def headerShift (line : List Char) : Option Int := do
  let rest ← Text.stripHead headerMark (Text.trim line)
  let word ← Text.firstWord rest
  Text.readSigned (-2147483648) 2147483647 word

/-- A header whose value is no number is passed over. -/
def transposes (text : List Char) : List Int := (Text.rows text).filterMap headerShift

end KeySheet.Sheet
