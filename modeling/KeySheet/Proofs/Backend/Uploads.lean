import Mathlib.Data.List.Infix
import KeySheet.Backend.Multipart
import KeySheet.Proofs.Backend.FormReader

/-! What arrives of an upload: which names and contents a receiver reads back as they were sent. -/
namespace KeySheet.Backend.Multipart

open FormReader

/-- What delimiters begin with. -/
def mark : List UInt8 := Text.utf8 ("--" ++ boundary)

/-- The header with the name in it, up to the name. -/
def beforeName : List Char := "Content-Disposition: form-data; name=\"file\"; filename=\"".toList

/-- The line of that header; a line end in the name ends it before the name does. -/
def nameLine (named : List Char) : List UInt8 :=
  (beforeName ++ named).flatMap String.utf8EncodeChar

def typeLine : List UInt8 := Text.utf8 "Content-Type: audio/midi"

/-- The upload as it is meant. -/
def uploaded (name : String) (content : List UInt8) : Part :=
  { name := "file", fileName := some (safeName name), contentType := some "audio/midi", content }

theorem announced (escapes : Bool) :
    parameters? escapes "multipart/form-data" contentType.toList = some [("boundary", boundary)] := by
  cases escapes <;> decide +kernel

theorem quote_notMem_safeName (name : String) : '"' ∉ (safeName name).toList := by
  rw [safeName, String.toList_ofList, List.mem_map]
  rintro ⟨c, -, replaced⟩
  split at replaced
  · exact absurd replaced (by decide)
  · next other => exact other replaced

theorem cr_notMem_utf8 {s : String} (plain : '\r' ∉ s.toList) : 13 ∉ Text.utf8 s := by
  rw [Text.utf8_eq_flatMap, List.mem_flatMap]
  rintro ⟨c, member, inside⟩
  refine cr_notMem_encode ?_ inside
  rintro rfl
  exact plain member

theorem cr_notMem_mark : 13 ∉ mark := cr_notMem_utf8 (by decide)

theorem cr_notMem_typeLine : 13 ∉ typeLine := cr_notMem_utf8 (by decide)

/-- A delimiter, the headers, an empty line, the content and the closing delimiter. -/
theorem cutLines_body (name : String) (content : List UInt8) :
    cutLines 13 10 (body name content) =
      mark :: (((cutLines '\r' '\n' ((safeName name).toList ++ ['"'])).modifyHead
          (beforeName ++ ·)).map (·.flatMap String.utf8EncodeChar) ++ typeLine :: [] ::
        (cutLines 13 10 content ++ [mark ++ [45, 45], []])) := by
  have whole : body name content = mark ++ 13 :: 10 ::
      ((beforeName ++ ((safeName name).toList ++ ['"'])).flatMap String.utf8EncodeChar ++
        13 :: 10 :: (typeLine ++ 13 :: 10 :: ([] ++ 13 :: 10 :: (content ++ 13 :: 10 ::
          ((mark ++ [45, 45]) ++ 13 :: 10 :: []))))) := by
    have ends : Text.utf8 lineEnd = [13, 10] := by rw [Text.utf8_eq_flatMap]; decide
    have dashes : Text.utf8 "--" = [45, 45] := by rw [Text.utf8_eq_flatMap]; decide
    have quote : Text.utf8 "\"" = ['"'].flatMap String.utf8EncodeChar := Text.utf8_eq_flatMap _
    have before : Text.utf8 "Content-Disposition: form-data; name=\"file\"; filename=\"" =
        beforeName.flatMap String.utf8EncodeChar := Text.utf8_eq_flatMap _
    simp only [body, opening, closing, mark, typeLine, Text.utf8_append, ends, dashes, quote,
      before, Text.utf8_eq_flatMap (safeName name), List.flatMap_append, List.append_assoc,
      List.cons_append, List.nil_append]
  have distinct : (13 : UInt8) ≠ 10 := by decide
  have one {line : List UInt8} (plain : 13 ∉ line) : cutLines 13 10 line = [line] := by
    apply cutLines_eq_singleton
    intro inside
    exact plain (inside.subset List.mem_cons_self)
  rw [whole]
  simp only [cutLines_append_break distinct]
  rw [cutLines_encode, cutLines_append (by decide : '\r' ∉ beforeName), one cr_notMem_mark,
    one cr_notMem_typeLine, one (by simpa using cr_notMem_mark : 13 ∉ mark ++ [45, 45])]
  simp [cutLines]

/-- Where a receiver finds the parameters of the header with the name, of which it has seen the
line up to `named`. -/
theorem parameters?_named {escapes : Bool} {named : List Char}
    (single : pieces escapes .quoted named = [named]) :
    parameters? escapes "form-data" (" form-data; name=\"file\"; filename=\"".toList ++ named) =
      (unquote escapes false named).map fun value =>
        [("name", "file"), ("filename", String.ofList value)] := by
  have cut : pieces escapes .outside
      (" form-data; name=\"file\"; filename=\"".toList ++ named) =
      [" form-data".toList, " name=\"file\"".toList, " filename=\"".toList ++ named] := by
    simp [pieces, Place.next, single]
  have file : parameter? escapes " name=\"file\"".toList = some ("name", "file") := by
    cases escapes <;> decide +kernel
  have fileName : parameter? escapes (" filename=\"".toList ++ named) =
      (unquote escapes false named).map fun value => ("filename", String.ofList value) := rfl
  have kind : Text.foldCase (Text.trim " form-data".toList) = "form-data".toList := by
    decide +kernel
  rw [parameters?, cut]
  simp only [if_pos kind, List.mapM_cons, file, fileName]
  cases unquote escapes false named with
  | none => rfl
  | some value => rfl

theorem header?_nameLine (named : List Char) :
    header? (nameLine named) = some ("content-disposition",
      " form-data; name=\"file\"; filename=\"".toList ++ named) := by
  have header : beforeName = "Content-Disposition".toList ++
      ':' :: " form-data; name=\"file\"; filename=\"".toList := by decide +kernel
  have folded : String.ofList (Text.foldCase "Content-Disposition".toList) =
      "content-disposition" := by decide +kernel
  rw [nameLine, header, List.append_assoc, List.cons_append, header?_encode (by decide), folded]

theorem header?_typeLine : header? typeLine = some ("content-type", " audio/midi".toList) := by
  have header : "Content-Type: audio/midi".toList =
      "Content-Type".toList ++ ':' :: " audio/midi".toList := by decide
  have folded : String.ofList (Text.foldCase "Content-Type".toList) = "content-type" := by decide
  rw [typeLine, Text.utf8_eq_flatMap, header, header?_encode (by decide), folded]

/-- Whatever lines follow, the name of the file is read from the first one. -/
theorem fileName_of_named {escapes : Bool} {named : List Char} {more : List (List UInt8)}
    {part : Part} (single : pieces escapes .quoted named = [named])
    (read : part? escapes (nameLine named :: more) = some part) :
    (unquote escapes false named).map String.ofList = part.fileName := by
  obtain ⟨parameters, found, fileName⟩ := fileName_of_part? (header?_nameLine named) read
  rw [parameters?_named single] at found
  obtain ⟨value, unquoted, rfl⟩ := Option.map_eq_some_iff.mp found
  rw [unquoted, ← fileName]
  rfl

theorem part?_named {escapes : Bool} {named : List Char} {content : List (List UInt8)}
    (single : pieces escapes .quoted named = [named]) :
    part? escapes (nameLine named :: typeLine :: [] :: content) =
      (unquote escapes false named).map fun value =>
        { name := "file"
          fileName := some (String.ofList value)
          contentType := some "audio/midi"
          content := [13, 10].intercalate content } := by
  have read : [nameLine named, typeLine].mapM header? =
      some [("content-disposition", " form-data; name=\"file\"; filename=\"".toList ++ named),
        ("content-type", " audio/midi".toList)] := by
    rw [List.mapM_cons, List.mapM_cons, header?_nameLine, header?_typeLine]
    rfl
  have nonempty : ∀ line ∈ [nameLine named, typeLine], line ≠ [] := by
    intro line member
    rcases List.mem_pair.mp member with rfl | rfl
    · exact ne_nil_of_header? (header?_nameLine named)
    · exact ne_nil_of_header? header?_typeLine
  have headed := part?_headers escapes nonempty read content
  rw [List.cons_append, List.singleton_append] at headed
  rw [headed, partOf?, List.lookup_cons_self, Option.bind_eq_bind, Option.bind_some,
    parameters?_named single]
  cases unquote escapes false named with
  | none => rfl
  | some value => rfl

theorem nameLine_unmarked (named : List Char) : ¬ mark <+: nameLine named := by
  have dash : mark.head? = some 45 := by
    rw [mark, Text.utf8_eq_flatMap]
    decide
  intro marked
  obtain ⟨rest, whole⟩ := marked
  have first := congrArg List.head? whole
  rw [List.head?_append, dash] at first
  cases first

theorem typeLine_unmarked : ¬ mark <+: typeLine := by
  rw [mark, typeLine, Text.utf8_eq_flatMap, Text.utf8_eq_flatMap]
  decide

/-- The sections after the first delimiter are what is read. -/
theorem readForm_body (escapes : Bool) (name : String) (content : List UInt8) :
    readForm escapes contentType (body name content) =
      (sections mark (((cutLines '\r' '\n' ((safeName name).toList ++ ['"'])).modifyHead
          (beforeName ++ ·)).map (·.flatMap String.utf8EncodeChar) ++ typeLine :: [] ::
        (cutLines 13 10 content ++ [mark ++ [45, 45], []]))).bind
          (·.mapM (part? escapes)) := by
  simp only [readForm, announced, Option.bind_eq_bind, Option.bind_some, List.lookup_cons_self]
  rw [cutLines_body, ← mark, sections_cons_mark, Option.bind_map]
  rfl

theorem cutLines_named {name : String} (plain : ¬ ['\r', '\n'] <:+: (safeName name).toList) :
    cutLines '\r' '\n' ((safeName name).toList ++ ['"']) = [(safeName name).toList ++ ['"']] := by
  apply cutLines_eq_singleton
  rw [List.infix_concat_iff]
  rintro (atEnd | inside)
  · have last := atEnd.getLast (by simp)
    simp at last
  · exact plain inside

theorem pieces_named (escapes : Bool) (name : String) :
    pieces escapes .quoted ((safeName name).toList ++ ['"']) =
      [(safeName name).toList ++ ['"']] := by
  apply pieces_quoted (by decide) (quote_notMem_safeName name)
  intro place inside
  rw [pieces, if_neg (fun both => inside both.1), pieces]
  rfl

/-- A name with a line end in it is cut off there, and so is no name. -/
theorem name_whole_of_readForm {escapes : Bool} {name : String} {content : List UInt8}
    (arrived : readForm escapes contentType (body name content) = some [uploaded name content]) :
    ¬ ['\r', '\n'] <:+: (safeName name).toList := by
  rintro ⟨front, back, parts⟩
  have cut : cutLines '\r' '\n' ((safeName name).toList ++ ['"']) =
      cutLines '\r' '\n' front ++ cutLines '\r' '\n' (back ++ ['"']) := by
    rw [← cutLines_append_break (by decide), ← parts]
    simp
  obtain ⟨first, more, frontLines⟩ := exists_cutLines_eq '\r' '\n' front
  have noQuote : '"' ∉ first := by
    intro member
    have inFront : '"' ∈ ['\r', '\n'] ++ front := by
      rw [← flatMap_cutLines '\r' '\n', frontLines, List.flatMap_cons]
      simp [member]
    have inName : '"' ∈ (safeName name).toList := by
      rw [← parts, List.append_assoc]
      exact List.mem_append_left _ (by simpa using inFront)
    exact quote_notMem_safeName name inName
  rw [readForm_body, cut, frontLines] at arrived
  have read := part?_of_single arrived
  simp only [List.cons_append, List.modifyHead_cons, List.map_cons] at read
  rw [← nameLine, List.takeWhile_cons_of_pos (by simpa using nameLine_unmarked first)] at read
  have single : pieces escapes .quoted first = [first] := by
    have alone : pieces escapes .quoted (first ++ []) = [first ++ []] :=
      pieces_quoted (by decide) noQuote (fun _ _ => by rw [pieces])
    rwa [List.append_nil] at alone
  have fileName := fileName_of_named single read
  rw [unquote_eq_none noQuote] at fileName
  cases fileName

theorem mark_ne_nil : mark ≠ [] := by
  rw [mark, Text.utf8_eq_flatMap]
  decide

/-- With a marked line after them, what comes before the first marked one holds less than all. -/
theorem unmarked_of_intercalate_eq {lines : List (List UInt8)}
    (whole : [13, 10].intercalate (lines.takeWhile (fun line => ¬ mark <+: line)) =
      [13, 10].intercalate lines) : ∀ line ∈ lines, ¬ mark <+: line := by
  induction lines with
  | nil => simp
  | cons line rest ih =>
      have first : ¬ mark <+: line := by
        intro marked
        rw [List.takeWhile_cons_of_neg (by simpa using marked)] at whole
        have empty : line = [] := by
          cases rest with
          | nil => simpa using whole.symm
          | cons next rest => simp at whole
        rw [empty, List.prefix_nil] at marked
        exact mark_ne_nil marked
      rw [List.takeWhile_cons_of_pos (by simpa using first)] at whole
      rw [List.forall_mem_cons]
      refine ⟨first, ?_⟩
      cases rest with
      | nil => simp
      | cons next rest =>
          apply ih
          by_cases marked : mark <+: next
          · rw [List.takeWhile_cons_of_neg (by simpa using marked)] at whole
            simp at whole
          · rw [List.takeWhile_cons_of_pos (by simpa using marked)] at whole ⊢
            simpa using whole

theorem takeWhile_closing (lines rest : List (List UInt8)) :
    (lines ++ (mark ++ [45, 45]) :: rest).takeWhile (fun line => ¬ mark <+: line) =
      lines.takeWhile (fun line => ¬ mark <+: line) := by
  rw [List.takeWhile_append, List.takeWhile_cons_of_neg (by simp), List.append_nil]
  split
  · next all => exact ((List.takeWhile_prefix _).eq_of_length all).symm
  · rfl

theorem readForm_body_iff {escapes : Bool} {name : String} {content : List UInt8}
    (plain : ¬ ['\r', '\n'] <:+: (safeName name).toList) :
    readForm escapes contentType (body name content) = some [uploaded name content] ↔
      (escapes = true → '\\' ∉ (safeName name).toList) ∧
        ∀ line ∈ cutLines 13 10 content, ¬ mark <+: line := by
  let line := nameLine ((safeName name).toList ++ ['"'])
  have named (lines : List (List UInt8)) :
      part? escapes (line :: typeLine :: [] :: lines) = some (uploaded name content) ↔
        (escapes = true → '\\' ∉ (safeName name).toList) ∧
          [13, 10].intercalate lines = content := by
    rw [part?_named (pieces_named escapes name),
      ← unquote_quoted_iff (quote_notMem_safeName name)]
    cases unquote escapes false ((safeName name).toList ++ ['"']) with
    | none => simp
    | some value => simp [uploaded, ← String.toList_inj]
  have headers : ∀ header ∈ [line, typeLine, []], ¬ mark <+: header := by
    simp only [List.mem_cons, List.not_mem_nil, or_false]
    rintro header (rfl | rfl | rfl)
    · exact nameLine_unmarked _
    · exact typeLine_unmarked
    · exact fun marked => mark_ne_nil (List.prefix_nil.mp marked)
  have sectioned : readForm escapes contentType (body name content) =
      (sections mark ([line, typeLine, []] ++ cutLines 13 10 content ++
        (mark ++ [45, 45]) :: [[]])).bind (·.mapM (part? escapes)) := by
    rw [readForm_body, cutLines_named plain, List.append_assoc]
    rfl
  rw [sectioned]
  constructor
  · intro arrived
    have read := part?_of_single arrived
    rw [List.append_assoc, List.takeWhile_append_of_pos (by simpa using headers),
      takeWhile_closing] at read
    obtain ⟨unescaped, whole⟩ := (named _).mp read
    refine ⟨unescaped, unmarked_of_intercalate_eq ?_⟩
    rw [intercalate_cutLines]
    exact whole
  · rintro ⟨unescaped, unmarked⟩
    rw [sections_closed, Option.bind_some, List.mapM_cons]
    · have read := (named _).mpr ⟨unescaped, intercalate_cutLines content⟩
      simp only [List.cons_append, List.nil_append, read]
      rfl
    · intro line member
      rcases List.mem_append.mp member with header | inside
      · exact headers line header
      · exact unmarked line inside

/-- Only quotes are replaced: any other mark is in the name that is sent where it was. -/
theorem infix_safeName_iff {word : List Char} (noQuote : '"' ∉ word) (noLow : '_' ∉ word)
    (name : String) : word <:+: (safeName name).toList ↔ word <:+: name.toList := by
  have same {cs : List Char} (noQuote : '"' ∉ cs) :
      cs.map (fun c => if c = '"' then '_' else c) = cs := by
    refine (List.map_congr_left ?_).trans (List.map_id cs)
    intro c member
    rw [if_neg, id]
    rintro rfl
    exact noQuote member
  rw [safeName, String.toList_ofList, List.infix_map_iff]
  constructor
  · rintro ⟨cs, inside, sent⟩
    have plain : '"' ∉ cs := by
      intro member
      apply noLow
      rw [sent]
      exact List.mem_map.mpr ⟨'"', member, if_pos rfl⟩
    rw [sent, same plain]
    exact inside
  · intro inside
    exact ⟨word, inside, (same noQuote).symm⟩

/-- What the receiver of an upload reads is the upload, for exactly these names and contents: the
name has no line end in it, and no backslash where a backslash escapes, and no line of the content
begins as a delimiter does. -/
theorem upload_arrives_iff (escapes : Bool) (name : String) (content : List UInt8) :
    readForm escapes contentType (body name content) = some [uploaded name content] ↔
      ¬ ['\r', '\n'] <:+: name.toList ∧ (escapes = true → '\\' ∉ name.toList) ∧
        ¬ Text.utf8 ("\r\n--" ++ boundary) <:+: Text.utf8 "\r\n" ++ content := by
  have lineEnd_iff : ['\r', '\n'] <:+: (safeName name).toList ↔ ['\r', '\n'] <:+: name.toList :=
    infix_safeName_iff (by decide) (by decide) name
  have backslash_iff : '\\' ∈ (safeName name).toList ↔ '\\' ∈ name.toList := by
    have := infix_safeName_iff (by decide : '"' ∉ ['\\']) (by decide) name
    rwa [List.singleton_infix_iff, List.singleton_infix_iff] at this
  have delimiter_iff : (∃ line ∈ cutLines 13 10 content, mark <+: line) ↔
      Text.utf8 ("\r\n--" ++ boundary) <:+: Text.utf8 "\r\n" ++ content := by
    have ends : Text.utf8 "\r\n" = [13, 10] := by rw [Text.utf8_eq_flatMap]; decide
    have delimiter : Text.utf8 ("\r\n--" ++ boundary) = [13, 10] ++ mark := by
      rw [← ends, mark, ← Text.utf8_append]
      rfl
    rw [delimiter, ends, exists_line_prefix_iff (by decide) cr_notMem_mark]
  rw [← lineEnd_iff, ← backslash_iff, ← delimiter_iff]
  constructor
  · intro arrived
    have plain := name_whole_of_readForm arrived
    obtain ⟨unescaped, unmarked⟩ := (readForm_body_iff plain).mp arrived
    refine ⟨plain, unescaped, ?_⟩
    rintro ⟨line, member, marked⟩
    exact unmarked line member marked
  · rintro ⟨plain, unescaped, unmarked⟩
    refine (readForm_body_iff plain).mpr ⟨unescaped, ?_⟩
    intro line member marked
    exact unmarked ⟨line, member, marked⟩

/-- A content with the closing delimiter in it is cut off there, and nothing tells; a name with a
line end in it makes the form unreadable. -/
theorem cut_upload_reads_as_whole :
    readForm false contentType
        (body "a.mid" (Text.utf8 "MThd\r\n------sheettui-upload-7f3a91c2--\r\n")) =
      some [uploaded "a.mid" (Text.utf8 "MThd")] ∧
    uploaded "a.mid" (Text.utf8 "MThd") ≠
      uploaded "a.mid" (Text.utf8 "MThd\r\n------sheettui-upload-7f3a91c2--\r\n") ∧
    readForm false contentType (body "a\r\nb.mid" (Text.utf8 "MThd")) = none := by
  decide +kernel

end KeySheet.Backend.Multipart
