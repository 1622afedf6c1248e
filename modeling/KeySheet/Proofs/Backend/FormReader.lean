import Mathlib.Data.List.Basic
import KeySheet.Text.Ascii
import KeySheet.Text.Blank
import KeySheet.Text.Utf8

/-! How the receiver of a form reads it, from the type that announces the boundary and the bytes.
The bytes are lines, ended by a carriage return and a line feed together; a line that begins with
two dashes and the boundary delimits, and the first empty line of a part ends its headers. -/
namespace KeySheet.Backend.FormReader

/-! ### Lines -/

section Lines

variable {α : Type} [DecidableEq α] {cr lf : α}

/-- The lines of a text; every `cr` with `lf` right after it ends one. -/
def cutLines (cr lf : α) : List α → List (List α)
  | [] => [[]]
  | [a] => [[a]]
  | a :: b :: rest =>
      if a = cr ∧ b = lf then [] :: cutLines cr lf rest
      else (cutLines cr lf (b :: rest)).modifyHead (a :: ·)

theorem cutLines_break (rest : List α) :
    cutLines cr lf (cr :: lf :: rest) = [] :: cutLines cr lf rest := by
  rw [cutLines, if_pos ⟨rfl, rfl⟩]

theorem cutLines_cons {a : α} {rest : List α} (goesOn : a = cr → rest.head? ≠ some lf) :
    cutLines cr lf (a :: rest) = (cutLines cr lf rest).modifyHead (a :: ·) := by
  cases rest with
  | nil => rfl
  | cons b rest =>
      rw [cutLines, if_neg]
      rintro ⟨first, second⟩
      exact goesOn first (congrArg some second)

/-- There is a first line, if an empty one. -/
theorem exists_cutLines_eq (cr lf : α) (text : List α) :
    ∃ line more, cutLines cr lf text = line :: more := by
  apply List.exists_cons_of_ne_nil
  fun_induction cutLines cr lf text with
  | case1 => simp
  | case2 => simp
  | case3 => simp
  | case4 a b rest goesOn ih => simpa using ih

theorem cutLines_append {front : List α} (plain : cr ∉ front) (rest : List α) :
    cutLines cr lf (front ++ rest) = (cutLines cr lf rest).modifyHead (front ++ ·) := by
  induction front with
  | nil => exact (congrFun List.modifyHead_id _).symm
  | cons a front ih =>
      rw [List.mem_cons, not_or] at plain
      rw [List.cons_append, cutLines_cons (fun same => absurd same.symm plain.1), ih plain.2,
        List.modifyHead_modifyHead]
      rfl

theorem cutLines_append_break (distinct : cr ≠ lf) (front rest : List α) :
    cutLines cr lf (front ++ cr :: lf :: rest) = cutLines cr lf front ++ cutLines cr lf rest := by
  fun_induction cutLines cr lf front with
  | case1 => exact cutLines_break rest
  | case2 a =>
      rw [List.singleton_append, cutLines_cons, cutLines_break]
      · rfl
      · intro _ next
        exact distinct (Option.some.inj next)
  | case3 a b front ends ih =>
      rw [ends.1, ends.2]
      simp only [List.cons_append]
      rw [cutLines_break, ih]
  | case4 a b front goesOn ih =>
      rw [List.cons_append, cutLines_cons, ih]
      · obtain ⟨line, more, cut⟩ := exists_cutLines_eq cr lf (b :: front)
        rw [cut]
        rfl
      · intro first second
        exact goesOn ⟨first, Option.some.inj second⟩

/-- A text without a line end is one line. -/
theorem cutLines_eq_singleton {text : List α} (whole : ¬ [cr, lf] <:+: text) :
    cutLines cr lf text = [text] := by
  fun_induction cutLines cr lf text with
  | case1 => rfl
  | case2 => rfl
  | case3 a b rest ends ih => exact absurd ⟨[], rest, by simp [ends]⟩ whole
  | case4 a b rest goesOn ih =>
      rw [ih fun inner => whole (inner.trans (List.infix_cons (List.infix_refl _)))]
      rfl

/-- The lines, each with a line end before it, make up the text with one before it. -/
theorem flatMap_cutLines (cr lf : α) (text : List α) :
    (cutLines cr lf text).flatMap ([cr, lf] ++ ·) = [cr, lf] ++ text := by
  fun_induction cutLines cr lf text with
  | case1 => rfl
  | case2 => rfl
  | case3 a b rest ends ih => rw [List.flatMap_cons, ih, ends.1, ends.2]; rfl
  | case4 a b rest goesOn ih =>
      obtain ⟨line, more, cut⟩ := exists_cutLines_eq cr lf (b :: rest)
      rw [cut, List.flatMap_cons, List.append_assoc, List.append_cancel_left_eq] at ih
      rw [cut, List.modifyHead_cons, List.flatMap_cons, List.append_assoc,
        List.append_cancel_left_eq, List.cons_append, ih]

theorem intercalate_cutLines (text : List α) : [cr, lf].intercalate (cutLines cr lf text) = text := by
  have joined (line : List α) (more : List (List α)) :
      [cr, lf].intercalate (line :: more) = line ++ more.flatMap ([cr, lf] ++ ·) := by
    induction more generalizing line with
    | nil => simp
    | cons next more ih => simp [ih]
  have lines := flatMap_cutLines cr lf text
  obtain ⟨line, more, cut⟩ := exists_cutLines_eq cr lf text
  rw [cut, List.flatMap_cons, List.append_assoc, List.append_cancel_left_eq] at lines
  rw [cut, joined, lines]

/-- A line begins with `mark` exactly where the mark stands right behind a line end. -/
theorem exists_line_prefix_iff (distinct : cr ≠ lf) {mark : List α} (plain : cr ∉ mark)
    (text : List α) :
    (∃ line ∈ cutLines cr lf text, mark <+: line) ↔ [cr, lf] ++ mark <:+: [cr, lf] ++ text := by
  constructor
  · rintro ⟨line, member, marked⟩
    rw [← flatMap_cutLines cr lf text]
    have inside : [cr, lf] ++ line <:+: (cutLines cr lf text).flatMap ([cr, lf] ++ ·) := by
      obtain ⟨before, after, parts⟩ := List.append_of_mem member
      refine ⟨before.flatMap ([cr, lf] ++ ·), after.flatMap ([cr, lf] ++ ·), ?_⟩
      rw [parts, List.flatMap_append, List.flatMap_cons]
      simp only [List.append_assoc]
    exact ((List.prefix_append_right_inj _).mpr marked).isInfix.trans inside
  · rintro ⟨before, after, whole⟩
    have first (rest : List α) : ∃ line ∈ cutLines cr lf (mark ++ rest), mark <+: line := by
      obtain ⟨line, more, cut⟩ := exists_cutLines_eq cr lf rest
      refine ⟨mark ++ line, ?_, List.prefix_append _ _⟩
      rw [cutLines_append plain, cut]
      exact List.mem_cons_self
    match before with
    | [] =>
        have text_eq : text = mark ++ after := by simpa using whole.symm
        rw [text_eq]
        exact first after
    | [a] =>
        have : cr = lf := by simp at whole; exact whole.2.1
        exact absurd this distinct
    | a :: b :: before =>
        have text_eq : text = before ++ cr :: lf :: (mark ++ after) := by
          simpa using (List.cons.inj (List.cons.inj whole).2).2.symm
        obtain ⟨line, member, marked⟩ := first after
        rw [text_eq, cutLines_append_break distinct]
        exact ⟨line, List.mem_append_right _ member, marked⟩

end Lines

theorem encode_cr : String.utf8EncodeChar '\r' = [13] := by decide

theorem encode_lf : String.utf8EncodeChar '\n' = [10] := by decide

theorem cr_notMem_encode {c : Char} (other : c ≠ '\r') : 13 ∉ String.utf8EncodeChar c := by
  intro member
  exact other (Char.toNat_inj.mp (Text.toNat_eq_of_mem_encode member (by decide)))

theorem head?_encode_ne {cs : List Char} (other : cs.head? ≠ some '\n') :
    (cs.flatMap String.utf8EncodeChar).head? ≠ some 10 := by
  intro first
  cases cs with
  | nil => simp at first
  | cons c cs =>
      rw [List.flatMap_cons, List.head?_append_of_ne_nil _ String.utf8EncodeChar_ne_nil] at first
      have member := List.mem_of_head? first
      exact other (congrArg some
        (Char.toNat_inj.mp (Text.toNat_eq_of_mem_encode member (by decide))))

/-- The lines of an encoded text are the encodings of its lines. -/
theorem cutLines_encode (cs : List Char) :
    cutLines 13 10 (cs.flatMap String.utf8EncodeChar) =
      (cutLines '\r' '\n' cs).map (·.flatMap String.utf8EncodeChar) := by
  have onward (c : Char) (cs : List Char) (goesOn : c = '\r' → cs.head? ≠ some '\n')
      (ih : cutLines 13 10 (cs.flatMap String.utf8EncodeChar) =
        (cutLines '\r' '\n' cs).map (·.flatMap String.utf8EncodeChar)) :
      cutLines 13 10 ((c :: cs).flatMap String.utf8EncodeChar) =
        (cutLines '\r' '\n' (c :: cs)).map (·.flatMap String.utf8EncodeChar) := by
    obtain ⟨line, more, cut⟩ := exists_cutLines_eq '\r' '\n' cs
    rw [cut] at ih
    rw [cutLines_cons goesOn, cut, List.flatMap_cons]
    by_cases first : c = '\r'
    · rw [first, encode_cr, List.singleton_append, cutLines_cons, ih]
      · rfl
      · intro _
        exact head?_encode_ne (goesOn first)
    · rw [cutLines_append (cr_notMem_encode first), ih]
      rfl
  induction cs using cutLines.induct '\r' '\n' with
  | case1 => rfl
  | case2 c => exact onward c [] (fun _ => by simp) rfl
  | case3 a b rest ends ih =>
      rw [ends.1, ends.2, cutLines_break, List.map_cons, ← ih]
      simp only [List.flatMap_cons, encode_cr, encode_lf]
      exact cutLines_break _
  | case4 a b rest goesOn ih =>
      refine onward a (b :: rest) ?_ ih
      intro first second
      exact goesOn ⟨first, Option.some.inj second⟩

/-! ### Headers -/

/-- Where a character of a header's value stands. -/
inductive Place where
  | outside
  | quoted
  | escaped
  deriving DecidableEq

/-- In a quoted text a backslash is a character like any other, unless it `escapes` the next. -/
def Place.next (escapes : Bool) : Place → Char → Place
  | .outside, c => if c = '"' then .quoted else .outside
  | .quoted, c =>
      if c = '"' then .outside else if c = '\\' ∧ escapes = true then .escaped else .quoted
  | .escaped, _ => .quoted

/-- A value between its semicolons; those in quotes do not count. -/
def pieces (escapes : Bool) : Place → List Char → List (List Char)
  | _, [] => [[]]
  | place, c :: rest =>
      if place = .outside ∧ c = ';' then [] :: pieces escapes .outside rest
      else (pieces escapes (place.next escapes c) rest).modifyHead (c :: ·)

/-- What a quote ends, when nothing but white space follows it. The flag tells a character that a
backslash stands before. -/
def unquote (escapes : Bool) : Bool → List Char → Option (List Char)
  | _, [] => none
  | true, c :: rest => (unquote escapes false rest).map (c :: ·)
  | false, c :: rest =>
      if c = '"' then if Text.allBlank rest then some [] else none
      else if c = '\\' ∧ escapes = true then unquote escapes true rest
      else (unquote escapes false rest).map (c :: ·)

/-- A quoted text stays in one piece. -/
theorem pieces_quoted {escapes : Bool} {place : Place} (inside : place ≠ .outside)
    {cs last : List Char} (noQuote : '"' ∉ cs)
    (ends : ∀ place ≠ .outside, pieces escapes place last = [last]) :
    pieces escapes place (cs ++ last) = [cs ++ last] := by
  induction cs generalizing place with
  | nil => exact ends place inside
  | cons c cs ih =>
      rw [List.mem_cons, not_or] at noQuote
      have stays : place.next escapes c ≠ .outside := by
        cases place with
        | outside => exact absurd rfl inside
        | quoted =>
            rw [Place.next, if_neg (Ne.symm noQuote.1)]
            split <;> simp
        | escaped => simp [Place.next]
      rw [List.cons_append, pieces, if_neg (fun both => inside both.1), ih stays noQuote.2]
      rfl

theorem unquote_eq_none {escapes escaped : Bool} {cs : List Char} (noQuote : '"' ∉ cs) :
    unquote escapes escaped cs = none := by
  induction cs generalizing escaped with
  | nil => rw [unquote]
  | cons c cs ih =>
      rw [List.mem_cons, not_or] at noQuote
      cases escaped with
      | true => rw [unquote, ih noQuote.2, Option.map_none]
      | false =>
          rw [unquote, if_neg (Ne.symm noQuote.1), ih noQuote.2, ih noQuote.2]
          simp

/-- The quote that ends a text is not part of it. -/
theorem length_lt_of_unquote {escapes escaped : Bool} {cs value : List Char}
    (read : unquote escapes escaped cs = some value) : value.length < cs.length := by
  induction cs generalizing escaped value with
  | nil => simp [unquote] at read
  | cons c cs ih =>
      have kept {escaped : Bool}
          (read : (unquote escapes escaped cs).map (c :: ·) = some value) :
          value.length < (c :: cs).length := by
        obtain ⟨rest, restRead, rfl⟩ := Option.map_eq_some_iff.mp read
        exact Nat.succ_lt_succ (ih restRead)
      cases escaped with
      | true => exact kept read
      | false =>
          rw [unquote] at read
          split at read
          · split at read
            · obtain rfl := Option.some.inj read
              exact Nat.zero_lt_succ _
            · simp at read
          · split at read
            · exact Nat.lt_succ_of_lt (ih read)
            · exact kept read

/-- A quoted text without quotes is read as it stands, unless it has backslashes that escape. -/
theorem unquote_quoted_iff {escapes : Bool} {cs : List Char} (noQuote : '"' ∉ cs) :
    unquote escapes false (cs ++ ['"']) = some cs ↔ (escapes = true → '\\' ∉ cs) := by
  induction cs with
  | nil => simp [unquote, Text.allBlank]
  | cons c cs ih =>
      rw [List.mem_cons, not_or] at noQuote
      rw [List.cons_append, unquote, if_neg (Ne.symm noQuote.1)]
      split
      · next escape =>
          constructor
          · intro read
            have shorter := length_lt_of_unquote read
            simp at shorter
          · intro none
            simp [escape.1] at none
            simp [none] at escape
      · next plain =>
          rw [Option.map_eq_some_iff]
          simp only [List.cons.injEq, true_and, exists_eq_right, ih noQuote.2, List.mem_cons,
            not_or]
          constructor
          · intro none escapes
            exact ⟨fun same => plain ⟨same.symm, escapes⟩, none escapes⟩
          · intro none escapes
            exact (none escapes).2

/-- A parameter, such as `name="file"`; names do not tell upper case from lower case. -/
def parameter? (escapes : Bool) (piece : List Char) : Option (String × String) :=
  let piece := Text.trimStart piece
  let name := String.ofList (Text.foldCase (piece.takeWhile (· ≠ '=')))
  match piece.dropWhile (· ≠ '=') with
  | '=' :: '"' :: value => (unquote escapes false value).map fun v => (name, String.ofList v)
  | '=' :: value => some (name, String.ofList (Text.trim value))
  | _ => none

/-- The parameters of a value, if it is of this kind. -/
def parameters? (escapes : Bool) (kind : String) (value : List Char) :
    Option (List (String × String)) :=
  match pieces escapes .outside value with
  | [] => none
  | first :: rest =>
      if Text.foldCase (Text.trim first) = kind.toList then rest.mapM (parameter? escapes)
      else none

/-- The name of a header, and its value. -/
def header? (line : List UInt8) : Option (String × List Char) := do
  let text ← Text.ofUtf8? line
  match text.toList.dropWhile (· ≠ ':') with
  | [] => none
  | _ :: value =>
      return (String.ofList (Text.foldCase (text.toList.takeWhile (· ≠ ':'))), value)

theorem header?_encode {name value : List Char} (plain : ':' ∉ name) :
    header? ((name ++ ':' :: value).flatMap String.utf8EncodeChar) =
      some (String.ofList (Text.foldCase name), value) := by
  have text : Text.ofUtf8? ((name ++ ':' :: value).flatMap String.utf8EncodeChar) =
      some (String.ofList (name ++ ':' :: value)) := by
    rw [← Text.ofUtf8?_utf8 (String.ofList (name ++ ':' :: value)), Text.utf8_eq_flatMap,
      String.toList_ofList]
  have passed : ∀ c ∈ name, decide (c ≠ ':') = true := by
    intro c member
    rw [decide_eq_true_eq]
    rintro rfl
    exact plain member
  rw [header?, text, Option.bind_eq_bind, Option.bind_some, String.toList_ofList,
    List.dropWhile_append_of_pos passed, List.takeWhile_append_of_pos passed]
  simp

/-! ### Parts -/

structure Part where
  name : String
  fileName : Option String
  contentType : Option String
  content : List UInt8
  deriving DecidableEq

/-- A part with these headers; it says in them what it is called. -/
def partOf? (escapes : Bool) (headers : List (String × List Char)) (content : List (List UInt8)) :
    Option Part := do
  let disposition ← headers.lookup "content-disposition"
  let parameters ← parameters? escapes "form-data" disposition
  let name ← parameters.lookup "name"
  return {
    name
    fileName := parameters.lookup "filename"
    contentType := (headers.lookup "content-type").map fun v => String.ofList (Text.trim v)
    content := [13, 10].intercalate content }

/-- A part of the form, from its lines. -/
def part? (escapes : Bool) (lines : List (List UInt8)) : Option Part := do
  let headers ← (lines.takeWhile (· ≠ [])).mapM header?
  match lines.dropWhile (· ≠ []) with
  | [] => none
  | _ :: content => partOf? escapes headers content

theorem ne_nil_of_header? {line : List UInt8} {header : String × List Char}
    (read : header? line = some header) : line ≠ [] := by
  rintro rfl
  have none : header? [] = none := rfl
  rw [none] at read
  cases read

theorem part?_headers (escapes : Bool) {lines : List (List UInt8)}
    {headers : List (String × List Char)} (nonempty : ∀ line ∈ lines, line ≠ [])
    (read : lines.mapM header? = some headers) (content : List (List UInt8)) :
    part? escapes (lines ++ [] :: content) = partOf? escapes headers content := by
  have passed : ∀ line ∈ lines, decide (line ≠ []) = true := fun line member =>
    decide_eq_true (nonempty line member)
  rw [part?, List.takeWhile_append_of_pos passed, List.dropWhile_append_of_pos passed]
  simp [read]

/-- Where the first header of a part says what it is called, so is its file. -/
theorem fileName_of_part? {escapes : Bool} {line : List UInt8} {more : List (List UInt8)}
    {disposition : List Char} {part : Part}
    (first : header? line = some ("content-disposition", disposition))
    (read : part? escapes (line :: more) = some part) :
    ∃ parameters, parameters? escapes "form-data" disposition = some parameters ∧
      parameters.lookup "filename" = part.fileName := by
  have nonempty := ne_nil_of_header? first
  simp only [part?, List.takeWhile_cons, List.dropWhile_cons, decide_eq_true nonempty, if_true,
    List.mapM_cons, first, Option.bind_eq_bind, Option.bind_some, Option.bind_assoc,
    Option.pure_def] at read
  obtain ⟨headers, -, read⟩ := Option.bind_eq_some_iff.mp read
  split at read
  · cases read
  · rw [partOf?, List.lookup_cons_self, Option.bind_eq_bind, Option.bind_some] at read
    obtain ⟨parameters, found, read⟩ := Option.bind_eq_some_iff.mp read
    obtain ⟨name, -, read⟩ := Option.bind_eq_some_iff.mp read
    refine ⟨parameters, found, ?_⟩
    obtain rfl := Option.some.inj read
    rfl

/-- The lines before the first delimiter, and those of every part; what comes after the closing
delimiter, which has two dashes more, does not count. A form that is never closed is none. -/
def sections (mark : List UInt8) : List (List UInt8) → Option (List (List (List UInt8)))
  | [] => none
  | line :: rest =>
      if mark ++ [45, 45] <+: line then some [[]]
      else if mark <+: line then (sections mark rest).map ([] :: ·)
      else (sections mark rest).map (·.modifyHead (line :: ·))

/-- A delimiter is a line that begins with the mark. -/
theorem sections_cons_mark (mark : List UInt8) (rest : List (List UInt8)) :
    sections mark (mark :: rest) = (sections mark rest).map ([] :: ·) := by
  rw [sections, if_neg, if_pos (List.prefix_refl mark)]
  intro closing
  have shorter := closing.length_le
  rw [List.length_append] at shorter
  exact absurd shorter (by simp)

theorem head?_of_sections {mark : List UInt8} {lines : List (List UInt8)}
    {found : List (List (List UInt8))} (read : sections mark lines = some found) :
    found.head? = some (lines.takeWhile (fun line => ¬ mark <+: line)) := by
  induction lines generalizing found with
  | nil => simp [sections] at read
  | cons line rest ih =>
      rw [sections] at read
      split at read
      · next closing =>
          have marked : mark <+: line := (List.prefix_append _ _).trans closing
          obtain rfl := Option.some.inj read
          simp [marked]
      · split at read
        · next marked =>
            obtain ⟨found, -, rfl⟩ := Option.map_eq_some_iff.mp read
            simp [marked]
        · next plain =>
            obtain ⟨found, restRead, rfl⟩ := Option.map_eq_some_iff.mp read
            cases found with
            | nil => exact absurd (ih restRead) (by simp)
            | cons first found => simpa [plain] using ih restRead

/-- Lines before the closing delimiter, with no delimiter among them, are one section. -/
theorem sections_closed {mark : List UInt8} {lines : List (List UInt8)}
    (plain : ∀ line ∈ lines, ¬ mark <+: line) (rest : List (List UInt8)) :
    sections mark (lines ++ (mark ++ [45, 45]) :: rest) = some [lines] := by
  induction lines with
  | nil => rw [List.nil_append, sections, if_pos (List.prefix_refl _)]
  | cons line lines ih =>
      have first : ¬ mark <+: line := plain line List.mem_cons_self
      rw [List.cons_append, sections, if_neg (fun closing => first
          ((List.prefix_append _ _).trans closing)), if_neg first,
        ih fun line member => plain line (.tail _ member)]
      rfl

/-- A form of one part ends at its first delimiter. -/
theorem part?_of_single {escapes : Bool} {mark : List UInt8} {lines : List (List UInt8)}
    {part : Part} (read : (sections mark lines).bind (·.mapM (part? escapes)) = some [part]) :
    part? escapes (lines.takeWhile (fun line => ¬ mark <+: line)) = some part := by
  obtain ⟨found, closed, read⟩ := Option.bind_eq_some_iff.mp read
  have head := head?_of_sections closed
  cases found with
  | nil => cases head
  | cons first more =>
      rw [List.head?_cons, Option.some.injEq] at head
      rw [List.mapM_cons, Option.bind_eq_bind] at read
      obtain ⟨single, firstRead, read⟩ := Option.bind_eq_some_iff.mp read
      obtain ⟨others, -, same⟩ := Option.bind_eq_some_iff.mp read
      obtain ⟨rfl, -⟩ := List.cons.inj (Option.some.inj same)
      rw [← head, firstRead]

/-- The parts of the form that a message of this type carries. -/
def readForm (escapes : Bool) (contentType : String) (body : List UInt8) : Option (List Part) := do
  let parameters ← parameters? escapes "multipart/form-data" contentType.toList
  let boundary ← parameters.lookup "boundary"
  let found ← sections (Text.utf8 ("--" ++ boundary)) (cutLines 13 10 body)
  found.tail.mapM (part? escapes)

end KeySheet.Backend.FormReader
