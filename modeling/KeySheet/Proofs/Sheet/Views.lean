import Mathlib.Data.List.Forall2
import KeySheet.Proofs.Sheet.ReadBack
import KeySheet.Screen.SheetPanel

/-! The two views of a sheet, on the screen and as markup. Line by line both show one text; and
where it is music, each run of the screen has a span of its own in the markup, whose style, read
back from its tag, is the look of the run. -/
namespace KeySheet.Sheet

/-- A property of a style and its value. -/
abbrev Declaration := List Char × List Char

def readDeclaration (cs : List Char) : Option Declaration :=
  match Text.parts (· == ':') cs with
  | [property, value] => some (Text.trim property, Text.trim value)
  | _ => none

/-- The declarations of an opening tag whose only attribute is its style. -/
def readStyle (tag : List Char) : Option (List Declaration) := do
  let rest ← Text.stripHead "<span style=\"".toList tag
  let (style, close) := rest.span (· != '"')
  if close = "\">".toList then
    ((Text.parts (· == ';') style).filter (fun cs => !Text.allBlank cs)).mapM readDeclaration
  else none

def readByte (high low : Char) : Option UInt8 :=
  (Text.readIn? 16 [high, low]).map UInt8.ofNat

/-- A number sign and two hexadecimal digits for each of red, green and blue. -/
def readColor : List Char → Option Color
  | ['#', r, r', g, g', b, b'] => do
      return ⟨← readByte r r', ← readByte g g', ← readByte b b'⟩
  | _ => none

/-- What marks a glyph as out of range in markup, besides its colour. -/
def outOfRangeStyle (color : List Char) : List Declaration := [
  ("font-weight".toList, "900".toList),
  ("border-bottom".toList, "2px solid".toList),
  ("display".toList, "inline-flex".toList),
  ("justify-content".toList, "center".toList),
  ("min-width".toList, "0.6em".toList),
  ("text-stroke".toList, "0.9px ".toList ++ color),
  ("-webkit-text-stroke".toList, "0.9px ".toList ++ color)]

/-- How a glyph looks. -/
structure Look where
  color : Color
  outOfRange : Bool
  deriving DecidableEq, Repr

/-- The look that a tag declares: a colour, and the style of glyphs out of range or nothing more. -/
def readLook (tag : List Char) : Option Look :=
  match readStyle tag with
  | some ((property, value) :: more) =>
      if property = "color".toList then
        if more = [] then (readColor value).map (⟨·, false⟩)
        else if more = outOfRangeStyle value then (readColor value).map (⟨·, true⟩)
        else none
      else none
  | _ => none

/-- A span that holds no other, by its opening tag and its text. -/
structure InnerSpan where
  tag : List Char
  text : List Char
  deriving DecidableEq, Repr

/-- The spans of markup that hold no other, in order. -/
def innerSpans : Option InnerSpan → List Token → List InnerSpan
  | _, [] => []
  | none, .char _ :: rest => innerSpans none rest
  | some span, .char c :: rest => innerSpans (some ⟨span.tag, span.text ++ [c]⟩) rest
  | opened, .tag tag :: rest =>
      if tag = closeTag then opened.toList ++ innerSpans none rest
      else innerSpans (some ⟨tag, []⟩) rest

/-- A run and a span show one text alike: in one colour, and the run heavy and underlined exactly if
the span has the style of glyphs out of range. -/
def SameLook (run : Screen.Run) (span : InnerSpan) : Prop :=
  run.text = span.text ∧ ∃ look, readLook span.tag = some look ∧
    run.style = { fg := some (.exact look.color),
                  emphasis := { bold := look.outOfRange, underlined := look.outOfRange } }

/-- The lines of the markup that a newline ends. -/
def markupLines (lines : Layout) : List (List Char) :=
  (Text.pieces (layoutMarkup lines)).dropLast

/-! ## The look of a glyph -/

theorem plainTag_look (duration : Duration) :
    readLook (plainTag duration.color.hex) = some ⟨duration.color, false⟩ := by
  unfold readLook readStyle plainTag outOfRangeStyle
  -- Spelled out first, the literals are not decoded byte by byte in each case.
  repeat rw [String.toList_ofList]
  cases duration <;> decide +kernel

theorem markedTag_look (duration : Duration) :
    readLook (markedTag duration.color.hex) = some ⟨duration.color, true⟩ := by
  unfold readLook readStyle markedTag outOfRangeStyle
  rw [String.toList_append]
  repeat rw [String.toList_ofList]
  cases duration <;> decide +kernel

theorem openTag_look (g : Glyph) : readLook g.openTag = some ⟨g.duration.color, g.outOfRange⟩ := by
  unfold Glyph.openTag
  cases g.outOfRange with
  | false => exact plainTag_look g.duration
  | true => exact markedTag_look g.duration

theorem openTag_ne_closeTag (g : Glyph) : g.openTag ≠ closeTag := by
  intro same
  have look := openTag_look g
  rw [same, show readLook closeTag = none by decide +kernel] at look
  cases look

theorem glyphRun_style (g : Glyph) :
    (Screen.glyphRun g).style =
      { fg := some (.exact g.duration.color),
        emphasis := { bold := g.outOfRange, underlined := g.outOfRange } } := by
  unfold Screen.glyphRun
  cases g.outOfRange <;> rfl

/-- The span that a glyph is written as. -/
def Glyph.innerSpan (g : Glyph) : InnerSpan := ⟨g.openTag, [g.char]⟩

theorem glyph_sameLook (g : Glyph) : SameLook (Screen.glyphRun g) g.innerSpan :=
  ⟨rfl, _, openTag_look g, glyphRun_style g⟩

/-! ## The spans of a line -/

/-- In a span of glyphs, the spans of the glyphs are the inner ones. -/
theorem innerSpans_glyphs {opened : Option InnerSpan} {span : Span}
    (filled : span ≠ []) (rest : List Token) :
    innerSpans opened (span.flatMap Glyph.tokens ++ rest) =
      span.map Glyph.innerSpan ++ innerSpans none rest := by
  induction span generalizing opened with
  | nil => exact absurd rfl filled
  | cons g span ih =>
      have first (behind : List Token) :
          innerSpans opened (g.tokens ++ behind) = g.innerSpan :: innerSpans none behind := by
        show innerSpans opened (.tag g.openTag :: .char g.char :: .tag closeTag :: behind) = _
        rw [innerSpans, if_neg (openTag_ne_closeTag g), innerSpans, innerSpans, if_pos rfl]
        rfl
      rw [List.flatMap_cons, List.append_assoc, first, List.map_cons, List.cons_append]
      cases span with
      | nil => rfl
      | cons next span => rw [ih (List.cons_ne_nil next span)]

theorem innerSpans_spans {spans : List Span} (filled : ∀ span ∈ spans, span ≠ []) :
    innerSpans none (spans.flatMap spanTokens) = spans.flatten.map Glyph.innerSpan := by
  induction spans with
  | nil => rfl
  | cons span spans ih =>
      have opens : blockTag ≠ closeTag := by decide
      rw [List.flatMap_cons, spanTokens, List.cons_append, innerSpans, if_neg opens,
        List.append_assoc, innerSpans_glyphs (filled span List.mem_cons_self),
        List.singleton_append, innerSpans, if_pos rfl, Option.toList_none, List.nil_append,
        ih (fun other member => filled other (List.mem_cons_of_mem _ member)), List.flatten_cons,
        List.map_append]

/-- Of a line of music, the runs on the screen and the inner spans go together. -/
theorem spans_sameLook {spans : List Span} (filled : ∀ span ∈ spans, span ≠ []) :
    List.Forall₂ SameLook (spans.flatten.map Screen.glyphRun)
      (innerSpans none (spans.flatMap spanTokens)) := by
  rw [innerSpans_spans filled, List.forall₂_map_left_iff, List.forall₂_map_right_iff,
    List.forall₂_same]
  exact fun g _ => glyph_sameLook g

/-- The screen shows the characters of a line. -/
theorem sheetLine_text (line : Line) :
    (Screen.sheetLine line).flatMap Screen.Run.text = charsOf line.tokens := by
  cases line with
  | metadata text | comment text =>
      rw [Line.tokens, charsOf_chars]
      exact List.append_nil text
  | blank => rfl
  | content spans =>
      rw [Line.tokens, charsOf_spans, Screen.sheetLine, List.flatMap_map]
      exact List.map_eq_flatMap.symm

/-- A line of the markup is read back as its tokens. -/
theorem markup_read (line : Line) : readMarkup none line.markup = some line.tokens := by
  rw [← line.text, read_tokens _ line.nested.tags]

/-! ## The lines of the markup -/

/-- Lines without newlines, each ended by one, are cut into the same lines again. -/
theorem pieces_lines {rows : List (List Char)} (single : ∀ row ∈ rows, '\n' ∉ row) :
    Text.pieces (rows.flatMap (· ++ ['\n'])) = rows ++ [[]] := by
  induction rows with
  | nil => rfl
  | cons row rows ih =>
      have cut := Text.parts_append '\n' row (rows.flatMap (· ++ ['\n']))
      rw [Text.parts_of_not_mem (single row List.mem_cons_self)] at cut
      have later := ih fun other member => single other (List.mem_cons_of_mem _ member)
      rw [List.flatMap_cons, List.append_assoc, List.singleton_append, Text.pieces, cut]
      exact congrArg (row :: ·) later

theorem newline_of_escapeChar {c : Char} (h : '\n' ∈ escapeChar c) : c = '\n' := by
  unfold escapeChar at h
  split at h
  · exact absurd h (by decide)
  · exact absurd h (by decide)
  · exact absurd h (by decide)
  · exact (List.mem_singleton.mp h).symm

theorem IsOpening.single {tag : List Char} (h : IsOpening tag) : '\n' ∉ tag := by
  cases h with
  | block => decide
  | plain duration =>
      unfold plainTag
      repeat rw [String.toList_ofList]
      cases duration <;> decide +kernel
  | marked duration =>
      unfold markedTag
      rw [String.toList_append]
      repeat rw [String.toList_ofList]
      cases duration <;> decide +kernel

/-- A newline in the markup of a line is one of its characters. -/
theorem newline_of_markup {line : Line} (h : '\n' ∈ line.markup) : '\n' ∈ charsOf line.tokens := by
  rw [← line.text] at h
  obtain ⟨token, member, inside⟩ := List.mem_flatMap.mp h
  cases token with
  | char c =>
      obtain rfl := newline_of_escapeChar inside
      exact List.mem_filterMap.mpr ⟨_, member, rfl⟩
  | tag tag =>
      rcases line.nested.known tag member with opening | rfl
      · exact absurd inside opening.single
      · exact absurd inside (by decide)

theorem newline_not_mem_source {text source : List Char} (h : source ∈ sourceLines text) :
    '\n' ∉ source := by
  obtain ⟨piece, member, rfl⟩ := List.mem_map.mp h
  have outside : '\n' ∉ piece := Text.not_mem_parts '\n' member
  unfold Text.dropReturn
  split
  · exact fun inside => outside (List.dropLast_subset _ inside)
  · exact outside

theorem newline_not_mem_markup {text : List Char} {line : Line} (member : line ∈ layout text) :
    '\n' ∉ line.markup := by
  intro newline
  have inside := newline_of_markup newline
  rcases mem_layout member with rfl | ⟨source, here, rfl⟩
  · cases inside
  · have outside := newline_not_mem_source here
    rcases classify_cases source with ⟨-, -, kind⟩ | ⟨-, -, kind⟩ | ⟨-, -, kind⟩
    · rw [charsOf_kept (.inl kind)] at inside
      exact outside inside
    · rw [kind] at inside
      cases inside
    · rw [charsOf_kept (.inr kind)] at inside
      exact outside inside

theorem layoutMarkup_pieces (text : List Char) :
    Text.pieces (layoutMarkup (layout text)) = (layout text).map Line.markup ++ [[]] := by
  have rows : layoutMarkup (layout text) =
      ((layout text).map Line.markup).flatMap (· ++ ['\n']) := by
    rw [List.flatMap_map]
    rfl
  rw [rows, pieces_lines]
  intro row member
  obtain ⟨line, here, rfl⟩ := List.mem_map.mp member
  exact newline_not_mem_markup here

theorem markupLines_eq (text : List Char) :
    markupLines (layout text) = (layout text).map Line.markup := by
  rw [markupLines, layoutMarkup_pieces, List.dropLast_concat]

/-- A line of music in a layout has no empty span. -/
theorem layout_filled {text : List Char} {spans : List Span}
    (member : .content spans ∈ layout text) : ∀ span ∈ spans, span ≠ [] := by
  have content : spans ∈ (layout text).filterMap Line.spans? :=
    List.mem_filterMap.mpr ⟨_, member, rfl⟩
  rw [layout_spans] at content
  obtain ⟨line, -, rfl⟩ := List.mem_map.mp content
  exact chordSpans_filled line

/-- The screen and the markup show the same sheet: as many lines, each with one text, and in the
lines of music glyph for glyph in the same look. -/
theorem views_agree (text : List Char) :
    Text.pieces (layoutMarkup (layout text)) = markupLines (layout text) ++ [[]] ∧
    (Screen.sheetLines (layout text)).length = (markupLines (layout text)).length ∧
    ∀ (i : Nat) (shown : Screen.Line) (row : List Char),
      (Screen.sheetLines (layout text))[i]? = some shown →
      (markupLines (layout text))[i]? = some row →
      ∃ tokens, readMarkup none row = some tokens ∧
        shown.flatMap Screen.Run.text = tokens.filterMap Token.char? ∧
        ∀ spans, (layout text)[i]? = some (Line.content spans) →
          List.Forall₂ SameLook shown (innerSpans none tokens) := by
  rw [markupLines_eq]
  refine ⟨layoutMarkup_pieces text, ?_, ?_⟩
  · rw [Screen.sheetLines, List.length_map, List.length_map]
  · intro i shown row atScreen atMarkup
    rw [Screen.sheetLines, List.getElem?_map] at atScreen
    rw [List.getElem?_map] at atMarkup
    obtain ⟨line, here, rfl⟩ := Option.map_eq_some_iff.mp atScreen
    rw [here] at atMarkup ⊢
    obtain rfl : line.markup = row := Option.some.inj atMarkup
    refine ⟨line.tokens, markup_read line, sheetLine_text line, ?_⟩
    intro spans content
    obtain rfl : line = .content spans := Option.some.inj content
    exact spans_sameLook (layout_filled (List.mem_of_getElem? here))

end KeySheet.Sheet
