import KeySheet.Proofs.Sheet.ReadBack
import KeySheet.Sheet.Document

/-! The page that a sheet is exported as, cut again at its fixed pieces. Whatever the title and the
sheet are, the pieces are found where they were put: a title brings no bracket, and no tag of a
sheet begins like a piece that ends it. So the page has the tags of its pieces and those of the
sheet, and the title is text. -/
namespace KeySheet.Sheet

/-- What stands before the first place of a mark, and what stands behind it. -/
def cutAt (mark : List Char) : List Char → Option (List Char × List Char)
  | [] => (Text.stripHead mark []).map (([], ·))
  | c :: cs =>
      match Text.stripHead mark (c :: cs) with
      | some rest => some ([], rest)
      | none => (cutAt mark cs).map (fun cut => (c :: cut.1, cut.2))

/-- What a page holds between its fixed pieces. -/
structure Holes where
  title : List Char
  heading : List Char
  markup : List Char
  deriving DecidableEq, Repr

/-- Cuts a page at its four pieces: it begins with the first and ends with the last, and each one is
taken at its first place behind the one before. -/
def readPage (page : List Char) : Option Holes := do
  let rest ← Text.stripHead pageHead.toList page
  let (title, rest) ← cutAt pageStyle.toList rest
  let (heading, rest) ← cutAt pageBody.toList rest
  let (markup, rest) ← cutAt pageFoot.toList rest
  if rest.isEmpty then some ⟨title, heading, markup⟩ else none

def Token.tag? : Token → Option (List Char)
  | .char _ => none
  | .tag text => some text

/-- A fixed piece of the page, as it is read. -/
def pieceTokens (piece : String) : List Token := (readMarkup none piece.toList).getD []

/-- What a page is read as: its pieces, the title as text, and what the sheet is read as. -/
def pageTokens (title : List Char) (sheet : List Token) : List Token :=
  pieceTokens pageHead ++ title.map .char ++ pieceTokens pageStyle ++ title.map .char ++
    pieceTokens pageBody ++ sheet ++ pieceTokens pageFoot

def headTags : List (List Char) :=
  ["<!DOCTYPE html>", "<html>", "<head>", "<meta charset=\"utf-8\">", "<title>"].map String.toList

def styleTags : List (List Char) :=
  ["</title>", "<style>", "</style>", "</head>", "<body>", "<h3>"].map String.toList

def bodyTags : List (List Char) := ["</h3>", "<pre>"].map String.toList

def footTags : List (List Char) := ["</pre>", "</body>", "</html>"].map String.toList

/-- The tags of a page, by those of its sheet. -/
def pageTags (sheet : List (List Char)) : List (List Char) :=
  headTags ++ styleTags ++ bodyTags ++ sheet ++ footTags

/-- A piece is written as it is read, and these are its tags. -/
structure IsPiece (piece : String) (tags : List (List Char)) : Prop where
  text : (pieceTokens piece).flatMap Token.text = piece.toList
  found : (pieceTokens piece).filterMap Token.tag? = tags
  closed : ∀ tag ∈ tags, isTag tag = true

/-- The mark begins nowhere in a piece, whatever follows. -/
def Passes (mark piece : List Char) : Prop :=
  ∀ rest, cutAt mark (piece ++ rest) = (cutAt mark rest).map (fun cut => (piece ++ cut.1, cut.2))

variable {mark piece cs : List Char}

/-! ## Cutting -/

theorem cutAt_mark (mark rest : List Char) : cutAt mark (mark ++ rest) = some ([], rest) := by
  have found : Text.stripHead mark (mark ++ rest) = some rest :=
    Text.stripHead_eq_some_iff.mpr rfl
  generalize mark ++ rest = cs at found
  cases cs with
  | nil => rw [cutAt, found, Option.map_some]
  | cons c cs => rw [cutAt, found]

theorem passes_nil (mark : List Char) : Passes mark [] := by
  intro rest
  exact Option.map_id'.symm

theorem passes_cons {c : Char} (misses : ∀ rest, Text.stripHead mark (c :: (cs ++ rest)) = none)
    (later : Passes mark cs) : Passes mark (c :: cs) := by
  intro rest
  rw [List.cons_append, cutAt, misses, later rest, Option.map_map]
  rfl

theorem Passes.append (first : Passes mark piece) (later : Passes mark cs) :
    Passes mark (piece ++ cs) := by
  intro rest
  rw [List.append_assoc, first, later, Option.map_map]
  simp [Function.comp_def]

theorem passes_flatMap {α : Type} {f : α → List Char} {as : List α}
    (each : ∀ a ∈ as, Passes mark (f a)) : Passes mark (as.flatMap f) := by
  induction as with
  | nil => exact passes_nil mark
  | cons a as ih =>
      rw [List.flatMap_cons]
      apply Passes.append
      · exact each a List.mem_cons_self
      · exact ih fun other member => each other (List.mem_cons_of_mem a member)

theorem passes_of_not_mem {x : Char} (mark : List Char) (h : x ∉ piece) :
    Passes (x :: mark) piece := by
  induction piece with
  | nil => exact passes_nil _
  | cons c cs ih =>
      rw [List.mem_cons, not_or] at h
      apply passes_cons
      · intro rest
        rw [Text.stripHead, if_neg h.1]
      · exact ih h.2

theorem Passes.cutAt (h : Passes mark piece) (rest : List Char) :
    cutAt mark (piece ++ (mark ++ rest)) = some (piece, rest) := by
  rw [h, cutAt_mark, Option.map_some, List.append_nil]

/-! ## The title -/

theorem replaceChar_other {c d : Char} (text : List Char) (other : d ≠ c) :
    replaceChar c text [d] = [d] := by
  rw [replaceChar, List.flatMap_singleton, if_neg other]

theorem escapeChar_other {c : Char} (amp : c ≠ '&') (less : c ≠ '<') (greater : c ≠ '>') :
    escapeChar c = [c] := by
  unfold escapeChar
  split
  · exact absurd rfl amp
  · exact absurd rfl less
  · exact absurd rfl greater
  · rfl

/-- What the three passes over a title make of a character is its escape. -/
theorem escapeTitle_char (c : Char) : escapeTitle [c] = escapeChar c := by
  by_cases amp : c = '&'
  · subst amp
    decide
  by_cases less : c = '<'
  · subst less
    decide
  by_cases greater : c = '>'
  · subst greater
    decide
  rw [escapeTitle, replaceChar_other _ amp, replaceChar_other _ less,
    replaceChar_other _ greater, escapeChar_other amp less greater]

theorem escapeTitle_eq (cs : List Char) : escapeTitle cs = escape cs := by
  induction cs with
  | nil => rfl
  | cons c cs ih =>
      have split : escapeTitle (c :: cs) = escapeTitle [c] ++ escapeTitle cs := by
        simp only [escapeTitle, replaceChar, List.flatMap_cons, List.flatMap_append,
          List.flatMap_nil, List.append_nil]
      rw [split, escapeTitle_char, ih]
      rfl

theorem escapeChar_inner (c : Char) : (escapeChar c).all isInner = true := by
  unfold escapeChar
  split
  · decide
  · decide
  · decide
  · next notAmp notLess notGreater => simp_all [isInner]

theorem escape_inner (cs : List Char) : (escape cs).all isInner = true := by
  rw [escape, List.all_flatMap, List.all_eq_true]
  intro c _
  exact escapeChar_inner c

theorem not_mem_of_inner (h : cs.all isInner = true) : '<' ∉ cs ∧ '>' ∉ cs := by
  rw [List.all_eq_true] at h
  constructor
  · intro member
    exact absurd (h _ member) (by decide)
  · intro member
    exact absurd (h _ member) (by decide)

theorem escape_read (cs : List Char) : readMarkup none (escape cs) = some (cs.map .char) := by
  rw [← chars_text]
  apply read_tokens
  intro tag member
  simp at member

/-! ## The fixed pieces

Each is spelled out before it is read, so that no literal need be decoded from its bytes. -/

theorem pageStyle_begins : ∃ tail, pageStyle.toList = '<' :: tail := by
  unfold pageStyle
  rw [String.toList_append, String.toList_append]
  repeat rw [String.toList_ofList]
  exact ⟨_, rfl⟩

theorem pageBody_begins : ∃ tail, pageBody.toList = '<' :: tail := by
  unfold pageBody
  rw [String.toList_ofList]
  exact ⟨_, rfl⟩

theorem pageFoot_begins : ∃ tail, pageFoot.toList = '<' :: '/' :: 'p' :: tail := by
  unfold pageFoot
  rw [String.toList_ofList]
  exact ⟨_, rfl⟩

theorem head_isPiece : IsPiece pageHead headTags := by
  constructor
  · unfold pieceTokens pageHead
    rw [String.toList_ofList]
    decide +kernel
  · unfold pieceTokens pageHead
    rw [String.toList_ofList]
    decide +kernel
  · decide +kernel

theorem style_isPiece : IsPiece pageStyle styleTags := by
  constructor
  · unfold pieceTokens pageStyle
    rw [String.toList_append, String.toList_append]
    repeat rw [String.toList_ofList]
    decide +kernel
  · unfold pieceTokens pageStyle
    rw [String.toList_append, String.toList_append]
    repeat rw [String.toList_ofList]
    decide +kernel
  · decide +kernel

theorem body_isPiece : IsPiece pageBody bodyTags := by
  constructor <;> decide +kernel

theorem foot_isPiece : IsPiece pageFoot footTags := by
  constructor <;> decide +kernel

/-! ## The sheet -/

theorem not_mem_of_closes (h : closes cs = true) : '<' ∉ cs := by
  induction cs with
  | nil => exact List.not_mem_nil
  | cons c cs ih =>
      rw [closes] at h
      split at h
      · next last =>
          rw [last, List.isEmpty_iff.mp h]
          decide
      · obtain ⟨other, closing⟩ := Bool.and_eq_true_iff.mp h
        rw [List.mem_cons, not_or]
        exact ⟨(bne_iff_ne.mp other).symm, ih closing⟩

theorem IsOpening.second {tag : List Char} (h : IsOpening tag) : ∃ tail, tag = '<' :: 's' :: tail := by
  cases h with
  | block => exact ⟨_, rfl⟩
  | plain duration => exact ⟨_, rfl⟩
  | marked duration => exact ⟨_, rfl⟩

/-- What ends the page begins like no tag of a sheet. -/
theorem tag_passes {tag : List Char} (h : IsOpening tag ∨ tag = closeTag) :
    Passes pageFoot.toList tag := by
  obtain ⟨tail, foot⟩ := pageFoot_begins
  rw [foot]
  rcases h with opening | rfl
  · have closed := opening.isTag
    obtain ⟨inner, rfl⟩ := opening.second
    apply passes_cons
    · intro rest
      rfl
    · exact passes_of_not_mem _ (not_mem_of_closes closed)
  · have close : closeTag = '<' :: "/span>".toList := by decide
    rw [close]
    apply passes_cons
    · intro rest
      rfl
    · exact passes_of_not_mem _ (by decide)

theorem tokens_pass {tokens : List Token} (nested : Nested tokens) :
    Passes pageFoot.toList (tokens.flatMap Token.text) := by
  apply passes_flatMap
  intro token member
  cases token with
  | char c =>
      obtain ⟨tail, foot⟩ := pageFoot_begins
      rw [foot]
      exact passes_of_not_mem _ (not_mem_of_inner (escapeChar_inner c)).1
  | tag tag => exact tag_passes (nested.known tag member)

/-! ## The whole page -/

theorem tag_mem {tag : List Char} {tokens : List Token} :
    tag ∈ tokens.filterMap Token.tag? ↔ .tag tag ∈ tokens := by
  rw [List.mem_filterMap]
  constructor
  · rintro ⟨token, member, same⟩
    cases token with
    | char c => cases same
    | tag text => cases same; exact member
  · intro member
    exact ⟨_, member, rfl⟩

theorem chars_tags (cs : List Char) : (cs.map Token.char).filterMap Token.tag? = [] := by
  rw [List.filterMap_map]
  exact List.filterMap_none cs

theorem IsPiece.isTag {piece : String} {tags : List (List Char)} (h : IsPiece piece tags)
    {tag : List Char} (member : .tag tag ∈ pieceTokens piece) : isTag tag = true := by
  apply h.closed
  rw [← h.found]
  exact tag_mem.mpr member

theorem pageTokens_tags (title : List Char) (sheet : List Token) :
    (pageTokens title sheet).filterMap Token.tag? = pageTags (sheet.filterMap Token.tag?) := by
  simp only [pageTokens, pageTags, List.filterMap_append, chars_tags, List.append_nil,
    head_isPiece.found, style_isPiece.found, body_isPiece.found, foot_isPiece.found]

theorem pageTokens_isTag (title : List Char) {sheet : List Token} (nested : Nested sheet) :
    ∀ tag, .tag tag ∈ pageTokens title sheet → isTag tag = true := by
  intro tag member
  simp only [pageTokens, List.mem_append, List.mem_map, reduceCtorEq, and_false, exists_false,
    or_false] at member
  rcases member with (((head | style) | body) | sheet) | foot
  · exact head_isPiece.isTag head
  · exact style_isPiece.isTag style
  · exact body_isPiece.isTag body
  · exact nested.tags tag sheet
  · exact foot_isPiece.isTag foot

theorem htmlPage_toList (title markup : String) :
    (htmlPage title markup).toList =
      pageHead.toList ++ (escape title.toList ++ (pageStyle.toList ++ (escape title.toList ++
        (pageBody.toList ++ (markup.toList ++ pageFoot.toList))))) := by
  simp only [htmlPage, String.toList_append, String.toList_ofList, escapeTitle_eq,
    List.append_assoc]

theorem pageTokens_text (title : List Char) (sheet : List Token) :
    (pageTokens title sheet).flatMap Token.text =
      pageHead.toList ++ (escape title ++ (pageStyle.toList ++ (escape title ++
        (pageBody.toList ++ (sheet.flatMap Token.text ++ pageFoot.toList))))) := by
  simp only [pageTokens, List.flatMap_append, chars_text, List.append_assoc, head_isPiece.text,
    style_isPiece.text, body_isPiece.text, foot_isPiece.text]

/-- The cut finds the pieces where they were put, if the markup has no place for the last one. -/
theorem readPage_htmlPage (title : String) {markup : String}
    (passes : Passes pageFoot.toList markup.toList) :
    readPage (htmlPage title markup).toList =
      some ⟨escape title.toList, escape title.toList, markup.toList⟩ := by
  have safe := (not_mem_of_inner (escape_inner title.toList)).1
  have toStyle : Passes pageStyle.toList (escape title.toList) := by
    obtain ⟨tail, style⟩ := pageStyle_begins
    rw [style]
    exact passes_of_not_mem _ safe
  have toBody : Passes pageBody.toList (escape title.toList) := by
    obtain ⟨tail, body⟩ := pageBody_begins
    rw [body]
    exact passes_of_not_mem _ safe
  have toFoot := passes.cutAt []
  rw [List.append_nil] at toFoot
  unfold readPage
  rw [htmlPage_toList, Text.stripHead_eq_some_iff.mpr rfl, Option.bind_eq_bind, Option.bind_some,
    toStyle.cutAt]
  simp only [Option.bind_eq_bind, Option.bind_some, toBody.cutAt, toFoot]
  rfl

/-- The page of a sheet is cut at its pieces into the title, twice, and the markup of the sheet. The
title is escaped character by character, though one kind after another, and is read as it was given.
All that is read of the page is its pieces, the title as text, and the sheet with tags of its own. -/
theorem page_reads_back (title text : String) :
    let page := (htmlPage title (colorize text)).toList
    let safe := escape title.toList
    readPage page = some ⟨safe, safe, (colorize text).toList⟩ ∧
    ('<' ∉ safe ∧ '>' ∉ safe) ∧
    readMarkup none safe = some (title.toList.map .char) ∧
    (∀ cs, escapeTitle cs = escape cs) ∧
    ∃ sheet, readMarkup none (colorize text).toList = some sheet ∧ Nested sheet ∧
      readMarkup none page = some (pageTokens title.toList sheet) ∧
      (pageTokens title.toList sheet).filterMap Token.tag? =
        pageTags (sheet.filterMap Token.tag?) ∧
      ∀ tag ∈ sheet.filterMap Token.tag?, IsOpening tag ∨ tag = closeTag := by
  intro page safe
  have nested := layout_nested (layout text.toList)
  have written : (colorize text).toList = (layoutTokens (layout text.toList)).flatMap Token.text := by
    rw [colorize, String.toList_ofList, layout_text]
  refine ⟨?_, not_mem_of_inner (escape_inner _), escape_read _, escapeTitle_eq,
    layoutTokens (layout text.toList), ?_, nested, ?_, pageTokens_tags _ _, ?_⟩
  · apply readPage_htmlPage
    rw [written]
    exact tokens_pass nested
  · rw [written, read_tokens _ nested.tags]
  · have whole : page = (pageTokens title.toList (layoutTokens (layout text.toList))).flatMap
        Token.text := by
      rw [pageTokens_text, ← written, ← htmlPage_toList]
    rw [whole, read_tokens _ (pageTokens_isTag _ nested)]
  · intro tag member
    exact nested.known tag (tag_mem.mp member)

end KeySheet.Sheet
