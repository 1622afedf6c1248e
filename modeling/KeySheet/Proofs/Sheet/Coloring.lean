import Mathlib.Data.List.Forall2
import KeySheet.Proofs.Sheet.Tokenization
import KeySheet.Sheet.Layout

/-! The colours of a sheet. A line of music is cut behind each of its separators, and every
character of it comes in one span, in the colour of the separator that ends the span; what is left
behind the last separator keeps that colour. -/
namespace KeySheet.Sheet

/-- Here stands a colon that marks the character behind it. -/
def IsMark (cs : List Char) (i : Nat) : Prop :=
  cs[i]? = some ':' ∧ ∃ c, cs[i + 1]? = some c ∧ isMarkable c = true

/-- The spans of a line, each in one colour. -/
structure Colors (line : List Char) (spans : List Span) : Prop where
  /-- No character is lost, and none comes twice. -/
  whole : spans.flatten.map Glyph.char = line
  filled : ∀ span ∈ spans, span ≠ []
  /-- The span of a separator ends with it and has its colour. -/
  closed : ∀ i s, (separators line)[i]? = some s →
    ∃ span, spans[i]? = some span ∧ (spans.take (i + 1)).flatten.length = s.stop ∧
      ∀ g ∈ span, g.duration = s.duration
  /-- What is left behind the last separator is one more span. -/
  trailing : ∀ last, (separators line).getLast? = some last →
    (last.stop = line.length ∧ spans.length = (separators line).length) ∨
    (last.stop < line.length ∧ spans.length = (separators line).length + 1 ∧
      ∃ span, spans.getLast? = some span ∧ ∀ g ∈ span, g.duration = last.duration)
  timeless : separators line = [] → ∃ span, spans = [span] ∧ ∀ g ∈ span, g.duration = .long
  marked : ∀ i g, spans.flatten[i]? = some g →
    (g.outOfRange = true ↔ IsMark line i ∨ ∃ j, i = j + 1 ∧ IsMark line j)

/-- A line of music: more than white space, and neither a header nor a comment. -/
def isContent (line : List Char) : Bool :=
  !Text.allBlank line && !headerMark.isPrefixOf (Text.trim line) &&
    !commentMark.isPrefixOf (Text.trim line)

def Line.spans? : Line → Option (List Span)
  | .content spans => some spans
  | _ => none

/-! ## The marks -/

theorem opensMark_iff (c : Char) (cs : List Char) :
    opensMark c cs = true ↔ IsMark (c :: cs) 0 := by
  cases cs with
  | nil => simp [opensMark, IsMark]
  | cons n cs => simp [opensMark, IsMark]

/-- A flag is set on a colon that marks, behind one, and where the character in front was one. -/
theorem marksFrom_iff {opened flag : Bool} {line : List Char} {i : Nat}
    (h : (marksFrom opened line)[i]? = some flag) :
    flag = true ↔ IsMark line i ∨ (i = 0 ∧ opened = true) ∨ ∃ j, i = j + 1 ∧ IsMark line j := by
  induction line generalizing opened i with
  | nil => cases h
  | cons c cs ih =>
      rw [marksFrom] at h
      cases i with
      | zero =>
          obtain rfl : (opened || opensMark c cs) = flag := Option.some.inj h
          rw [Bool.or_eq_true, opensMark_iff]
          constructor
          · rintro (here | mark)
            · exact .inr (.inl ⟨rfl, here⟩)
            · exact .inl mark
          · rintro (mark | ⟨-, here⟩ | ⟨j, same, -⟩)
            · exact .inr mark
            · exact .inl here
            · cases same
      | succ i =>
          refine (ih h).trans (or_congr Iff.rfl ?_)
          constructor
          · rintro (⟨rfl, mark⟩ | ⟨j, rfl, mark⟩)
            · exact .inr ⟨0, rfl, (opensMark_iff c cs).mp mark⟩
            · exact .inr ⟨j + 1, rfl, mark⟩
          · rintro (⟨same, -⟩ | ⟨j, same, mark⟩)
            · cases same
            · obtain rfl := Nat.succ.inj same
              cases i with
              | zero => exact .inl ⟨rfl, (opensMark_iff c cs).mpr mark⟩
              | succ j => exact .inr ⟨j, rfl, mark⟩

theorem outOfRangeMarks_iff {flag : Bool} {line : List Char} {i : Nat}
    (h : (outOfRangeMarks line)[i]? = some flag) :
    flag = true ↔ IsMark line i ∨ ∃ j, i = j + 1 ∧ IsMark line j := by
  simpa using marksFrom_iff h

/-! ## The cuts -/

/-- What is seen of a glyph but its colour. -/
def Glyph.seen (g : Glyph) : Char × Bool := (g.char, g.outOfRange)

theorem paint_seen (duration : Duration) (chars : List (Char × Bool)) :
    (paint duration chars).map Glyph.seen = chars := by
  rw [paint, List.map_map]
  exact List.map_id _

theorem paint_duration {duration : Duration} {chars : List (Char × Bool)} :
    ∀ g ∈ paint duration chars, g.duration = duration := by
  intro g member
  obtain ⟨p, -, rfl⟩ := List.mem_map.mp member
  rfl

theorem paint_length (duration : Duration) (chars : List (Char × Bool)) :
    (paint duration chars).length = chars.length :=
  List.length_map ..

theorem cutSpans_nil (start : Nat) (last : Duration) (chars : List (Char × Bool)) :
    cutSpans start last [] chars = if chars = [] then [] else [paint last chars] := by
  cases chars with
  | nil => rfl
  | cons p chars => exact (if_neg (List.cons_ne_nil p chars)).symm

theorem cutSpans_seen (start : Nat) (last : Duration) (seps : List Separator)
    (chars : List (Char × Bool)) :
    (cutSpans start last seps chars).flatten.map Glyph.seen = chars := by
  induction seps generalizing start last chars with
  | nil =>
      rw [cutSpans_nil]
      split
      · next empty => rw [empty, List.flatten_nil, List.map_nil]
      · rw [List.flatten_singleton, paint_seen]
  | cons s seps ih =>
      rw [cutSpans, List.flatten_cons, List.map_append, paint_seen, ih, List.take_append_drop]

section
variable {line : List Char} {start : Nat} (last : Duration) {seps : List Separator}
  {chars : List (Char × Bool)}

/-- The first separator is within the characters that are still to be cut. -/
theorem ReadsFrom.room {s : Separator} (h : ReadsFrom line start (s :: seps))
    (rest : start + chars.length = line.length) :
    start < s.stop ∧ (chars.take (s.stop - start)).length = s.stop - start ∧
      s.stop + (chars.drop (s.stop - start)).length = line.length := by
  obtain ⟨width, inside, -⟩ := separatorAt_covers (h.read s List.mem_cons_self)
  have behind := h.behind s List.mem_cons_self
  rw [List.length_take, List.length_drop]
  omega

theorem cutSpans_filled (h : ReadsFrom line start seps)
    (rest : start + chars.length = line.length) :
    ∀ span ∈ cutSpans start last seps chars, span ≠ [] := by
  induction seps generalizing start last chars with
  | nil =>
      rw [cutSpans_nil]
      split
      · nofun
      · next left =>
          intro span member
          obtain rfl := List.mem_singleton.mp member
          rw [paint, ne_eq, List.map_eq_nil_iff]
          exact left
  | cons s seps ih =>
      obtain ⟨wide, first, behind⟩ := h.room rest
      intro span member
      rw [cutSpans] at member
      rcases List.mem_cons.mp member with rfl | later
      · refine List.ne_nil_of_length_pos ?_
        rw [paint_length, first]
        omega
      · exact ih s.duration h.tail behind span later

/-- The spans of the separators come first, each up to the end of its own. -/
theorem cutSpans_closed (h : ReadsFrom line start seps)
    (rest : start + chars.length = line.length) {i : Nat} {s : Separator}
    (here : seps[i]? = some s) :
    ∃ span, (cutSpans start last seps chars)[i]? = some span ∧
      start + ((cutSpans start last seps chars).take (i + 1)).flatten.length = s.stop ∧
      ∀ g ∈ span, g.duration = s.duration := by
  induction seps generalizing start last chars i with
  | nil => cases here
  | cons t seps ih =>
      obtain ⟨wide, first, behind⟩ := h.room rest
      rw [cutSpans]
      cases i with
      | zero =>
          obtain rfl : t = s := Option.some.inj here
          refine ⟨_, rfl, ?_, paint_duration⟩
          rw [List.take_succ_cons, List.take_zero, List.flatten_singleton, paint_length, first]
          omega
      | succ i =>
          obtain ⟨span, found, ends, colour⟩ := ih t.duration h.tail behind here
          refine ⟨span, found, ?_, colour⟩
          rw [List.take_succ_cons, List.flatten_cons, List.length_append, paint_length, first]
          omega

/-- Behind the spans of the separators there is one more exactly if characters are left. -/
theorem cutSpans_trailing (h : ReadsFrom line start seps)
    (rest : start + chars.length = line.length) {s : Separator} (final : seps.getLast? = some s) :
    (s.stop = line.length ∧ (cutSpans start last seps chars).length = seps.length) ∨
    (s.stop < line.length ∧ (cutSpans start last seps chars).length = seps.length + 1 ∧
      ∃ span, (cutSpans start last seps chars).getLast? = some span ∧
        ∀ g ∈ span, g.duration = s.duration) := by
  induction seps generalizing start last chars with
  | nil => cases final
  | cons t seps ih =>
      obtain ⟨wide, first, behind⟩ := h.room rest
      rw [cutSpans]
      cases seps with
      | nil =>
          obtain rfl : t = s := Option.some.inj final
          rw [cutSpans_nil]
          split
          · next none =>
              rw [none] at behind
              exact .inl ⟨behind, rfl⟩
          · next left =>
              have room := List.length_pos_iff.mpr left
              exact .inr ⟨by omega, rfl, _, rfl, paint_duration⟩
      | cons u seps =>
          rw [List.getLast?_cons_cons] at final
          rcases ih t.duration h.tail behind final with
            ⟨whole, count⟩ | ⟨short, count, span, found, colour⟩
          · exact .inl ⟨whole, congrArg (· + 1) count⟩
          · refine .inr ⟨short, congrArg (· + 1) count, span, ?_, colour⟩
            rw [List.getLast?_cons, found]
            rfl

end

/-! ## The spans of a line -/

/-- The characters of a line with their marks. -/
def markedChars (line : List Char) : List (Char × Bool) := line.zip (outOfRangeMarks line)

theorem markedChars_length (line : List Char) : 0 + (markedChars line).length = line.length := by
  rw [markedChars, List.length_zip, length_outOfRangeMarks, Nat.min_self, Nat.zero_add]

theorem markedChars_chars (line : List Char) : (markedChars line).map Prod.fst = line :=
  List.map_fst_zip (Nat.le_of_eq (length_outOfRangeMarks line).symm)

theorem chordSpans_eq (line : List Char) :
    chordSpans line = cutSpans 0 .long (separators line) (markedChars line) := rfl

theorem chordSpans_seen (line : List Char) :
    (chordSpans line).flatten.map Glyph.seen = markedChars line :=
  cutSpans_seen 0 .long (separators line) (markedChars line)

theorem chordSpans_filled (line : List Char) : ∀ span ∈ chordSpans line, span ≠ [] :=
  cutSpans_filled .long (separators_read line) (markedChars_length line)

theorem chordSpans_chars (line : List Char) : (chordSpans line).flatten.map Glyph.char = line := by
  have chars := congrArg (List.map Prod.fst) (chordSpans_seen line)
  rw [List.map_map, markedChars_chars] at chars
  exact chars

theorem chordSpans_marked {line : List Char} {i : Nat} {g : Glyph}
    (h : (chordSpans line).flatten[i]? = some g) :
    g.outOfRange = true ↔ IsMark line i ∨ ∃ j, i = j + 1 ∧ IsMark line j := by
  have seen : (markedChars line)[i]? = some g.seen := by
    rw [← chordSpans_seen, List.getElem?_map, h]
    rfl
  exact outOfRangeMarks_iff (List.getElem?_zip_eq_some.mp seen).2

theorem chordSpans_colors {line : List Char} (filled : line ≠ []) :
    Colors line (chordSpans line) where
  whole := chordSpans_chars line
  filled := chordSpans_filled line
  closed i s here := by
    simpa only [chordSpans_eq, Nat.zero_add] using
      cutSpans_closed .long (separators_read line) (markedChars_length line) here
  trailing _ := cutSpans_trailing .long (separators_read line) (markedChars_length line)
  timeless none := by
    have chars : markedChars line ≠ [] := by
      refine List.ne_nil_of_length_pos ?_
      rw [← Nat.zero_add (markedChars line).length, markedChars_length]
      exact List.length_pos_iff.mpr filled
    refine ⟨paint .long (markedChars line), ?_, paint_duration⟩
    rw [chordSpans_eq, none, cutSpans_nil, if_neg chars]
  marked _ _ := chordSpans_marked

/-! ## The lines of a text -/

theorem classify_spans (line : List Char) :
    (classify line).spans? = if isContent line then some (chordSpans line) else none := by
  have empty : (Text.trim line).isEmpty = Text.allBlank line := by
    rw [Bool.eq_iff_iff, List.isEmpty_iff]
    exact Text.trim_eq_nil_iff line
  rw [isContent, ← empty, classify]
  generalize Text.trim line = bare
  cases headerMark.isPrefixOf bare <;> cases bare.isEmpty <;>
    cases commentMark.isPrefixOf bare <;> rfl

theorem layout_spans (text : List Char) :
    (layout text).filterMap Line.spans? =
      ((sourceLines text).filter isContent).map chordSpans := by
  rw [layout_filterMap _ rfl, ← List.filterMap_eq_map, List.filterMap_filter]
  refine congrArg (List.filterMap · _) ?_
  funext line
  exact classify_spans line

/-- The content of a layout is the music of its text, line by line, and in it every character has
one colour, that of the separator behind its chord. -/
theorem layout_colors (text : List Char) :
    List.Forall₂ Colors ((sourceLines text).filter isContent)
      ((layout text).filterMap Line.spans?) := by
  rw [layout_spans, List.forall₂_map_right_iff, List.forall₂_same]
  intro line member
  have content := (List.mem_filter.mp member).2
  refine chordSpans_colors ?_
  rintro rfl
  cases content

/-- The dash ends the first chord, though the colon marks it. -/
example : (chordSpans "a:-b, c".toList).map (·.map (fun g => (g.duration, g.outOfRange))) =
    [[(.sixteenth, false), (.sixteenth, true), (.sixteenth, true)],
      [(.half, false), (.half, false), (.half, false)], [(.half, false)]] := by
  decide

end KeySheet.Sheet
