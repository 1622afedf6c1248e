import KeySheet.Proofs.Sheet.Coloring
import KeySheet.Proofs.Sheet.Lines
import KeySheet.Sheet.Markup

/-! Reading the markup of a sheet back. The reader knows brackets and three entities and nothing of
sheets; what it finds outside the tags is the text of the sheet, line by line, and the tags are
those of the palette, properly nested. -/
namespace KeySheet.Sheet

/-- What markup consists of: characters, and tags with their brackets. -/
inductive Token where
  | char (c : Char)
  | tag (text : List Char)
  deriving DecidableEq, Repr

namespace Token

/-- How a token is written. -/
def text : Token → List Char
  | char c => escapeChar c
  | tag text => text

def char? : Token → Option Char
  | char c => some c
  | tag _ => none

end Token

/-- Reads markup, from within a tag of which some text was read, or from outside. A tag ends at the
first closing bracket; no other bracket may stand in it, and none outside a tag. An ampersand
begins one of three entities. -/
def readMarkup : Option (List Char) → List Char → Option (List Token)
  | none, [] => some []
  | none, '<' :: cs => readMarkup (some ['<']) cs
  | none, '>' :: _ => none
  | none, '&' :: 'a' :: 'm' :: 'p' :: ';' :: cs => (readMarkup none cs).map (.char '&' :: ·)
  | none, '&' :: 'l' :: 't' :: ';' :: cs => (readMarkup none cs).map (.char '<' :: ·)
  | none, '&' :: 'g' :: 't' :: ';' :: cs => (readMarkup none cs).map (.char '>' :: ·)
  | none, '&' :: _ => none
  | none, c :: cs => (readMarkup none cs).map (.char c :: ·)
  | some _, [] => none
  | some _, '<' :: _ => none
  | some text, '>' :: cs => (readMarkup none cs).map (.tag (text ++ ['>']) :: ·)
  | some text, c :: cs => readMarkup (some (text ++ [c])) cs

/-- The opening tags: that of a chord, and those of a glyph, in the colours of the palette. -/
inductive IsOpening : List Char → Prop
  | block : IsOpening blockTag
  | plain (duration : Duration) : IsOpening (plainTag duration.color.hex)
  | marked (duration : Duration) : IsOpening (markedTag duration.color.hex)

/-- Every opening tag has its closing one, and between them is nothing half open. -/
inductive Nested : List Token → Prop
  | nil : Nested []
  | char {c rest} : Nested rest → Nested (.char c :: rest)
  | element {tag inner rest} : IsOpening tag → Nested inner → Nested rest →
      Nested (.tag tag :: (inner ++ .tag closeTag :: rest))

/-- What is left of a line without its markup. A line of white space is an empty one, and it is
left out directly behind a transposition header. -/
def plainLine (before : Option (List Char)) (line : List Char) : List Char :=
  if Text.allBlank line then
    if before.any (fun b => headerMark.isPrefixOf (Text.trim b)) then [] else ['\n']
  else line ++ ['\n']

def plainLines (before : Option (List Char)) : List (List Char) → List Char
  | [] => []
  | line :: rest => plainLine before line ++ plainLines (some line) rest

/-- The text of a sheet as its markup keeps it, by the lines of the text. -/
def plainText (text : List Char) (lines : List (List Char)) : List Char :=
  if text.isEmpty then [] else plainLines none lines

/-! ## The reader -/

/-- Behind an opening bracket: up to the closing one, which is the last character. -/
def closes : List Char → Bool
  | [] => false
  | c :: cs => if c = '>' then cs.isEmpty else c != '<' && closes cs

/-- A tag as the reader takes it. -/
def isTag : List Char → Bool
  | '<' :: cs => closes cs
  | _ => false

theorem read_escapeChar (c : Char) (rest : List Char) :
    readMarkup none (escapeChar c ++ rest) = (readMarkup none rest).map (.char c :: ·) := by
  unfold escapeChar
  split
  · rfl
  · rfl
  · rfl
  · next notAmp notLess notGreater =>
      show readMarkup none (c :: rest) = _
      rw [readMarkup] <;> simp_all

theorem read_closing (cs : List Char) (h : closes cs = true) (read rest : List Char) :
    readMarkup (some read) (cs ++ rest) =
      (readMarkup none rest).map (.tag (read ++ cs) :: ·) := by
  induction cs generalizing read with
  | nil => cases h
  | cons c cs ih =>
      rw [closes] at h
      split at h
      · next bracket =>
          obtain rfl := List.isEmpty_iff.mp h
          rw [bracket]
          rfl
      · next inner =>
          obtain ⟨other, closing⟩ := Bool.and_eq_true_iff.mp h
          have next : readMarkup (some read) (c :: (cs ++ rest)) =
              readMarkup (some (read ++ [c])) (cs ++ rest) := by
            rw [readMarkup] <;> simp_all
          rw [List.cons_append, next, ih closing, List.append_assoc, List.singleton_append]

theorem read_tag {tag : List Char} (h : isTag tag = true) (rest : List Char) :
    readMarkup none (tag ++ rest) = (readMarkup none rest).map (.tag tag :: ·) := by
  unfold isTag at h
  split at h
  · exact read_closing _ h ['<'] rest
  · cases h

/-- What is written is read, whatever the order of the tokens. -/
theorem read_tokens (tokens : List Token) (tags : ∀ tag, .tag tag ∈ tokens → isTag tag = true) :
    readMarkup none (tokens.flatMap Token.text) = some tokens := by
  induction tokens with
  | nil => rfl
  | cons token rest ih =>
      have later := ih fun tag member => tags tag (List.mem_cons_of_mem _ member)
      rw [List.flatMap_cons]
      cases token with
      | char c => rw [Token.text, read_escapeChar, later, Option.map_some]
      | tag text => rw [Token.text, read_tag (tags text List.mem_cons_self), later, Option.map_some]

/-! ## The tags -/

/-- No bracket. -/
def isInner (c : Char) : Bool := c != '<' && c != '>'

theorem closes_inner {inner : List Char} (h : inner.all isInner = true) (cs : List Char) :
    closes (inner ++ cs) = closes cs := by
  induction inner with
  | nil => rfl
  | cons c inner ih =>
      obtain ⟨head, tail⟩ := Bool.and_eq_true_iff.mp h
      have notBracket : c ≠ '<' ∧ c ≠ '>' := by simpa [isInner] using head
      rw [List.cons_append, closes, ih tail, if_neg notBracket.2]
      simp [notBracket.1]

theorem hex_inner (duration : Duration) : duration.color.hex.all isInner = true := by
  cases duration <;> decide

theorem closeTag_isTag : isTag closeTag = true := by decide

theorem blockTag_isTag : isTag blockTag = true := by decide

theorem styleTag_isTag {color : List Char} (h : color.all isInner = true) (cs : List Char) :
    isTag ("<span style=\"color:".toList ++ (color ++ cs)) = closes cs := by
  have bracket : "<span style=\"color:".toList = '<' :: "span style=\"color:".toList := by decide
  rw [bracket]
  show closes ("span style=\"color:".toList ++ (color ++ cs)) = closes cs
  rw [closes_inner (by decide), closes_inner h]

theorem plainTag_isTag {color : List Char} (h : color.all isInner = true) :
    isTag (plainTag color) = true := by
  unfold plainTag
  simp only [List.append_assoc]
  rw [styleTag_isTag h]
  decide

theorem markedTag_isTag {color : List Char} (h : color.all isInner = true) :
    isTag (markedTag color) = true := by
  unfold markedTag
  simp only [List.append_assoc]
  -- Spelled out, a literal need not be decoded from its bytes.
  rw [styleTag_isTag h, closes_inner, closes_inner h, closes_inner, closes_inner h]
  · decide
  · rw [String.toList_ofList]
    decide
  · rw [String.toList_append, String.toList_ofList, String.toList_ofList]
    decide

/-- No colour of the palette brings a bracket into its tags. -/
theorem IsOpening.isTag {tag : List Char} (h : IsOpening tag) : isTag tag = true := by
  cases h with
  | block => exact blockTag_isTag
  | plain duration => exact plainTag_isTag (hex_inner duration)
  | marked duration => exact markedTag_isTag (hex_inner duration)

theorem openTag_isOpening (g : Glyph) : IsOpening g.openTag := by
  unfold Glyph.openTag
  split
  · exact .marked g.duration
  · exact .plain g.duration

/-- No tag is there but the closing one and those that open. -/
theorem Nested.known {tokens : List Token} (h : Nested tokens) :
    ∀ tag, .tag tag ∈ tokens → IsOpening tag ∨ tag = closeTag := by
  induction h with
  | nil => nofun
  | char _ ih =>
      intro tag member
      rcases List.mem_cons.mp member with same | later
      · cases same
      · exact ih tag later
  | element opening _ _ inner rest =>
      intro tag member
      rcases List.mem_cons.mp member with same | member
      · cases same
        exact .inl opening
      rcases List.mem_append.mp member with within | member
      · exact inner tag within
      rcases List.mem_cons.mp member with same | later
      · cases same
        exact .inr rfl
      · exact rest tag later

theorem Nested.tags {tokens : List Token} (h : Nested tokens) :
    ∀ tag, .tag tag ∈ tokens → isTag tag = true := by
  intro tag member
  rcases h.known tag member with opening | rfl
  · exact opening.isTag
  · exact closeTag_isTag

theorem Nested.append {first rest : List Token} (h : Nested first) (h' : Nested rest) :
    Nested (first ++ rest) := by
  induction h with
  | nil => exact h'
  | char _ ih => exact .char ih
  | element opening inner _ _ ih =>
      rw [List.cons_append, List.append_assoc, List.cons_append]
      exact .element opening inner ih

theorem nested_flatMap {α : Type} {f : α → List Token} (nested : ∀ a, Nested (f a)) (as : List α) :
    Nested (as.flatMap f) := by
  induction as with
  | nil => exact .nil
  | cons a rest ih => exact (nested a).append ih

theorem nested_chars (cs : List Char) : Nested (cs.map .char) := by
  induction cs with
  | nil => exact .nil
  | cons c rest ih => exact .char ih

/-! ## The tokens of a sheet -/

def Glyph.tokens (g : Glyph) : List Token := [.tag g.openTag, .char g.char, .tag closeTag]

def spanTokens (span : Span) : List Token :=
  .tag blockTag :: (span.flatMap Glyph.tokens ++ [.tag closeTag])

def Line.tokens : Line → List Token
  | .metadata text | .comment text => text.map .char
  | .blank => []
  | .content spans => spans.flatMap spanTokens

def layoutTokens (lines : Layout) : List Token := lines.flatMap (fun l => l.tokens ++ [.char '\n'])

theorem glyph_nested (g : Glyph) : Nested g.tokens :=
  .element (openTag_isOpening g) (nested_chars [g.char]) .nil

theorem span_nested (span : Span) : Nested (spanTokens span) :=
  .element .block (nested_flatMap glyph_nested span) .nil

theorem Line.nested (line : Line) : Nested line.tokens := by
  cases line with
  | metadata text | comment text => exact nested_chars text
  | blank => exact .nil
  | content spans => exact nested_flatMap span_nested spans

theorem layout_nested (lines : Layout) : Nested (layoutTokens lines) :=
  nested_flatMap (fun line => line.nested.append (nested_chars ['\n'])) lines

theorem chars_text (cs : List Char) : (cs.map Token.char).flatMap Token.text = escape cs :=
  List.flatMap_map ..

theorem glyph_text (g : Glyph) : g.tokens.flatMap Token.text = g.markup := by
  simp [Glyph.tokens, Glyph.markup, Token.text]

theorem span_text (span : Span) : (spanTokens span).flatMap Token.text = spanMarkup span := by
  simp [spanTokens, spanMarkup, Token.text, List.flatMap_assoc, glyph_text]

theorem Line.text (line : Line) : line.tokens.flatMap Token.text = line.markup := by
  cases line with
  | metadata text | comment text => exact chars_text text
  | blank => rfl
  | content spans => simp [Line.tokens, Line.markup, List.flatMap_assoc, span_text]

/-- The markup is what the tokens are written as. -/
theorem layout_text (lines : Layout) :
    (layoutTokens lines).flatMap Token.text = layoutMarkup lines := by
  have newline : escapeChar '\n' = ['\n'] := rfl
  simp [layoutTokens, layoutMarkup, List.flatMap_assoc, Line.text, Token.text, newline]

/-! ## The characters of a sheet -/

def charsOf (tokens : List Token) : List Char := tokens.filterMap Token.char?

theorem charsOf_append (first rest : List Token) :
    charsOf (first ++ rest) = charsOf first ++ charsOf rest :=
  List.filterMap_append

theorem charsOf_chars (cs : List Char) : charsOf (cs.map .char) = cs := by
  simp [charsOf, List.filterMap_map, Function.comp_def, Token.char?]

theorem charsOf_span (span : Span) : charsOf (spanTokens span) = span.map Glyph.char := by
  have glyphs : charsOf (span.flatMap Glyph.tokens) = span.map Glyph.char := by
    induction span with
    | nil => rfl
    | cons g rest ih =>
        rw [List.flatMap_cons, charsOf_append, ih]
        rfl
  show charsOf ([.tag blockTag] ++ (span.flatMap Glyph.tokens ++ [.tag closeTag])) = _
  rw [charsOf_append, charsOf_append, glyphs]
  exact List.append_nil _

theorem charsOf_spans (spans : List Span) :
    charsOf (spans.flatMap spanTokens) = spans.flatten.map Glyph.char := by
  induction spans with
  | nil => rfl
  | cons span rest ih =>
      rw [List.flatMap_cons, charsOf_append, charsOf_span, ih, List.flatten_cons, List.map_append]

theorem charsOf_chordSpans (line : List Char) :
    charsOf ((chordSpans line).flatMap spanTokens) = line := by
  rw [charsOf_spans, chordSpans_chars]

/-- A line is a header, white space, or kept as it is. -/
theorem classify_cases (line : List Char) :
    (headerMark.isPrefixOf (Text.trim line) = true ∧ Text.allBlank line = false ∧
      classify line = .metadata line) ∨
    (headerMark.isPrefixOf (Text.trim line) = false ∧ Text.allBlank line = true ∧
      classify line = .blank) ∨
    (headerMark.isPrefixOf (Text.trim line) = false ∧ Text.allBlank line = false ∧
      (classify line = .comment line ∨ classify line = .content (chordSpans line))) := by
  have blank := Text.trim_eq_nil_iff line
  rw [classify]
  generalize Text.trim line = bare at blank ⊢
  cases header : headerMark.isPrefixOf bare with
  | true =>
      have some : bare ≠ [] := by
        rintro rfl
        cases header
      exact .inl ⟨rfl, Bool.eq_false_iff.mpr (fun all => some (blank.mpr all)), if_pos rfl⟩
  | false =>
      right
      cases empty : Text.allBlank line with
      | true =>
          obtain rfl := blank.mpr empty
          exact .inl ⟨rfl, rfl, rfl⟩
      | false =>
          have some : bare.isEmpty = false := by
            rw [List.isEmpty_eq_false_iff]
            intro none
            rw [blank.mp none] at empty
            cases empty
          refine .inr ⟨rfl, rfl, ?_⟩
          rw [if_neg (by simp), some, if_neg (by simp)]
          split
          · exact .inl rfl
          · exact .inr rfl

theorem charsOf_kept {line : List Char} {kind : Line}
    (h : kind = .metadata line ∨ kind = .comment line ∨ kind = .content (chordSpans line)) :
    charsOf kind.tokens = line := by
  rcases h with rfl | rfl | rfl
  · exact charsOf_chars line
  · exact charsOf_chars line
  · exact charsOf_chordSpans line

theorem charsOf_cons (kind : Line) (rest : Layout) :
    charsOf (layoutTokens (kind :: rest)) =
      charsOf kind.tokens ++ '\n' :: charsOf (layoutTokens rest) := by
  rw [layoutTokens, List.flatMap_cons, charsOf_append, charsOf_append, List.append_assoc]
  rfl

/-- The layout drops a blank line just when the line before was a header. -/
theorem charsOf_layoutLines (before : Option (List Char)) (lines : List (List Char)) :
    charsOf (layoutTokens
      (layoutLines (before.any (fun b => headerMark.isPrefixOf (Text.trim b))) lines)) =
      plainLines before lines := by
  induction lines generalizing before with
  | nil => rfl
  | cons line rest ih =>
      have next := ih (some line)
      rw [Option.any_some] at next
      rw [plainLines, plainLine, layoutLines]
      rcases classify_cases line with ⟨header, full, kind⟩ | ⟨other, blank, kind⟩ | ⟨other, full, kind⟩
      · rw [header] at next
        rw [kind, full, charsOf_cons, next, charsOf_kept (.inl rfl)]
        simp
      · rw [other] at next
        rw [kind, blank]
        dsimp only
        split
        · rw [next]
          rfl
        · rw [charsOf_cons, next]
          rfl
      · rw [other] at next
        rw [full]
        rcases kind with kind | kind
        · rw [kind, charsOf_cons, next, charsOf_kept (.inr (.inl rfl))]
          simp
        · rw [kind, charsOf_cons, next, charsOf_kept (.inr (.inr rfl))]
          simp

theorem charsOf_layout (text : List Char) :
    charsOf (layoutTokens (layout text)) = plainText text (sourceLines text) := by
  unfold layout plainText
  split
  · rfl
  · exact charsOf_layoutLines none _

/-- The markup of a sheet is read in one way: into escaped characters and nested tags of the
palette, and the characters are the text of the sheet, line by line. -/
theorem colorize_reads_back (text : String) :
    ∃ lines tokens, (∀ others, IsLines text.toList others ↔ others = lines) ∧
      readMarkup none (colorize text).toList = some tokens ∧
      (colorize text).toList = tokens.flatMap Token.text ∧
      Nested tokens ∧
      tokens.filterMap Token.char? = plainText text.toList lines := by
  have written : (colorize text).toList = (layoutTokens (layout text.toList)).flatMap Token.text := by
    rw [colorize, String.toList_ofList, layout_text]
  have nested := layout_nested (layout text.toList)
  refine ⟨sourceLines text.toList, layoutTokens (layout text.toList), fun _ => isLines_iff, ?_,
    written, nested, charsOf_layout text.toList⟩
  rw [written, read_tokens _ nested.tags]

/-- The blank line behind a header goes, and what looks like markup is text again. -/
example :
    (readMarkup none (layoutMarkup (layout "Transpose by: 1\n \n\n&lt;<b".toList))).map charsOf =
      some "Transpose by: 1\n\n&lt;<b\n".toList := by
  decide +kernel

end KeySheet.Sheet
