import KeySheet.Proofs.Json.Numbers
import KeySheet.Proofs.Json.Texts

/-! The texts of a document. A value may be laid out with any white space between its parts; all such
texts are read as the value. The compact and the indented text are two of them. -/
namespace KeySheet.Json

/-- White space only. -/
def Blank (cs : List Char) : Prop := ∀ c ∈ cs, isSpace c = true

mutual

/-- The texts of a value. Numbers and names are spelled as the writer spells them. -/
inductive Written : Json → List Char → Prop where
  | null : Written .null "null".toList
  | yes : Written (.bool true) "true".toList
  | no : Written (.bool false) "false".toList
  | number {x : Number} (h : x.ReadsBack) : Written (.number x) x.render
  | string (s : String) : Written (.string s) (quote s)
  | emptyArray {b : List Char} (blank : Blank b) : Written (.array []) ('[' :: (b ++ [']']))
  | array {b cs : List Char} {items : List Json} (blank : Blank b) (h : WrittenItems items cs) :
      Written (.array items) ('[' :: (b ++ cs))
  | emptyObject {b : List Char} (blank : Blank b) :
      Written (.object []) ('\x7b' :: (b ++ ['\x7d']))
  | object {b cs : List Char} {fields : Fields} (blank : Blank b) (h : WrittenFields fields cs) :
      Written (.object fields) ('\x7b' :: (b ++ cs))

/-- Items up to the closing bracket. -/
inductive WrittenItems : List Json → List Char → Prop where
  | last {j : Json} {cs b : List Char} (h : Written j cs) (blank : Blank b) :
      WrittenItems [j] (cs ++ (b ++ [']']))
  | more {j : Json} {items : List Json} {cs b b₂ rest : List Char} (h : Written j cs)
      (before : Blank b) (after : Blank b₂) (follow : WrittenItems items rest) :
      WrittenItems (j :: items) (cs ++ (b ++ ',' :: (b₂ ++ rest)))

/-- Fields up to the closing brace. -/
inductive WrittenFields : Fields → List Char → Prop where
  | last {name : String} {v : Json} {b b₂ cs b₃ : List Char} (named : Blank b) (valued : Blank b₂)
      (h : Written v cs) (blank : Blank b₃) :
      WrittenFields [(name, v)] (quote name ++ (b ++ ':' :: (b₂ ++ (cs ++ (b₃ ++ ['\x7d'])))))
  | more {name : String} {v : Json} {fields : Fields} {b b₂ cs b₃ b₄ rest : List Char}
      (named : Blank b) (valued : Blank b₂) (h : Written v cs) (before : Blank b₃)
      (after : Blank b₄) (follow : WrittenFields fields rest) :
      WrittenFields ((name, v) :: fields)
        (quote name ++ (b ++ ':' :: (b₂ ++ (cs ++ (b₃ ++ ',' :: (b₄ ++ rest))))))

end

/-- Begins with a character that is no white space and closes nothing. -/
def Opens (cs : List Char) : Prop :=
  ∃ c rest, cs = c :: rest ∧ isSpace c = false ∧ c ≠ ']' ∧ c ≠ '\x7d'

section Opening

variable {cs more b : List Char} {c : Char}

theorem Opens.append (h : Opens cs) (more : List Char) : Opens (cs ++ more) := by
  obtain ⟨c, rest, rfl, opens⟩ := h
  exact ⟨c, rest ++ more, rfl, opens⟩

theorem opens_quote (s : String) : Opens (quote s) :=
  ⟨'"', _, rfl, by decide⟩

theorem opens_digit (digit : Text.isAsciiDigit c = true) (cs : List Char) : Opens (c :: cs) := by
  refine ⟨c, cs, rfl, isSpace_eq_false_of_isNumeral (by rw [isNumeral, digit, Bool.true_or]), ?_, ?_⟩
  · rintro rfl; cases digit
  · rintro rfl; cases digit

theorem opens_number {x : Number} (h : x.ReadsBack) : Opens x.render := by
  have read := h.readValue endsNumber_nil 0
  rw [List.append_nil] at read
  rcases readNumber_of_readValue read with ⟨ds, shown, -⟩ | read
  · exact ⟨'-', ds, shown, by decide⟩
  · obtain ⟨c, ds, shown, digit⟩ := readNumber_first read
    exact shown ▸ opens_digit digit ds

theorem Written.opens {j : Json} (h : Written j cs) : Opens cs := by
  cases h with
  | number h => exact opens_number h
  | string s => exact opens_quote s
  | _ => exact ⟨_, _, rfl, by decide⟩

theorem WrittenItems.opens {items : List Json} (h : WrittenItems items cs) : Opens cs := by
  cases h with
  | last h _ => exact h.opens.append _
  | more h _ _ _ => exact h.opens.append _

theorem WrittenFields.opens {fields : Fields} (h : WrittenFields fields cs) : Opens cs := by
  cases h with
  | last => exact (opens_quote _).append _
  | more => exact (opens_quote _).append _

theorem skipSpace_blank (blank : Blank b) (solid : isSpace c = false) (more : List Char) :
    skipSpace (b ++ c :: more) = c :: more := by
  rw [skipSpace, List.dropWhile_append_of_pos blank,
    List.dropWhile_cons_of_neg (Bool.eq_false_iff.mp solid)]

theorem Opens.skipSpace (h : Opens cs) (blank : Blank b) : skipSpace (b ++ cs) = cs := by
  obtain ⟨c, rest, rfl, solid, -⟩ := h
  exact skipSpace_blank blank solid rest

theorem endsNumber_mark {c : Char} (mark : c ∈ [' ', '\n', '\t', '\r', ',', ']', '\x7d'])
    (more : List Char) : EndsNumber (c :: more) := by
  simp only [List.mem_cons, List.not_mem_nil, or_false] at mark
  rcases mark with rfl | rfl | rfl | rfl | rfl | rfl | rfl <;>
    exact ⟨rfl, fun d first => by cases first; decide⟩

/-- White space ends a number, and so does what closes or separates. -/
theorem endsNumber_blank (blank : Blank b) (h : EndsNumber more) : EndsNumber (b ++ more) := by
  cases b with
  | nil => exact h
  | cons d b =>
      have space := blank d List.mem_cons_self
      simp only [isSpace, Bool.or_eq_true, beq_iff_eq] at space
      refine endsNumber_mark ?_ (b ++ more)
      rcases space with ((rfl | rfl) | rfl) | rfl <;> decide

end Opening

section Reading

/-- A value is read from its text, in front of any text that ends a number. -/
def ReadAs (j : Json) (cs : List Char) : Prop :=
  ∀ fuel rest, cs.length < fuel → EndsNumber rest → readValue fuel (cs ++ rest) = some (j, rest)

/-- Items are read from their text, behind those that are read already. -/
def ReadAsItems (items : List Json) (cs : List Char) : Prop :=
  ∀ fuel acc rest, cs.length < fuel →
    readItems fuel acc (cs ++ rest) = some (acc.reverse ++ items, rest)

def ReadAsFields (fields : Fields) (cs : List Char) : Prop :=
  ∀ fuel acc rest, cs.length < fuel →
    readFields fuel acc (cs ++ rest) = some (some (acc.reverse ++ fields), rest)

variable {j v : Json} {items : List Json} {fields : Fields} {name : String}
  {cs more b₁ b₂ b₃ b₄ : List Char}

theorem readAs_string (s : String) : ReadAs (.string s) (quote s) := by
  intro fuel rest enough ends
  obtain ⟨fuel, rfl⟩ := Nat.exists_eq_succ_of_ne_zero (Nat.ne_zero_of_lt enough)
  rw [quote, List.cons_append, List.append_assoc, List.singleton_append, readValue, readText_quoted]

theorem readAs_word {word : List Char}
    (h : ∀ fuel rest, readValue (fuel + 1) (word ++ rest) = some (j, rest)) : ReadAs j word := by
  intro fuel rest enough ends
  obtain ⟨fuel, rfl⟩ := Nat.exists_eq_succ_of_ne_zero (Nat.ne_zero_of_lt enough)
  exact h fuel rest

theorem readAs_number {x : Number} (h : x.ReadsBack) : ReadAs (.number x) x.render := by
  intro fuel rest enough ends
  obtain ⟨fuel, rfl⟩ := Nat.exists_eq_succ_of_ne_zero (Nat.ne_zero_of_lt enough)
  exact h.readValue ends fuel

theorem readAs_emptyArray (blank : Blank b₁) : ReadAs (.array []) ('[' :: (b₁ ++ [']'])) := by
  intro fuel rest enough ends
  obtain ⟨fuel, rfl⟩ := Nat.exists_eq_succ_of_ne_zero (Nat.ne_zero_of_lt enough)
  rw [List.cons_append, List.append_assoc, List.singleton_append, readValue,
    skipSpace_blank blank rfl]
  rfl

theorem readAs_array (blank : Blank b₁) (opens : Opens cs) (h : ReadAsItems items cs) :
    ReadAs (.array items) ('[' :: (b₁ ++ cs)) := by
  intro fuel rest enough ends
  obtain ⟨fuel, rfl⟩ := Nat.exists_eq_succ_of_ne_zero (Nat.ne_zero_of_lt enough)
  have length : cs.length < fuel := by
    rw [List.length_cons, List.length_append] at enough
    omega
  have read := h fuel [] rest length
  rw [List.cons_append, List.append_assoc, readValue, (opens.append rest).skipSpace blank]
  obtain ⟨c, tail, rfl, -, noClose, -⟩ := opens
  split
  · next first => cases first; exact absurd rfl noClose
  · rw [read]; rfl

theorem readAs_emptyObject (blank : Blank b₁) :
    ReadAs (.object []) ('\x7b' :: (b₁ ++ ['\x7d'])) := by
  intro fuel rest enough ends
  obtain ⟨fuel, rfl⟩ := Nat.exists_eq_succ_of_ne_zero (Nat.ne_zero_of_lt enough)
  rw [List.cons_append, List.append_assoc, List.singleton_append, readValue,
    skipSpace_blank blank rfl]
  rfl

theorem readAs_object (blank : Blank b₁) (opens : Opens cs) (h : ReadAsFields fields cs) :
    ReadAs (.object fields) ('\x7b' :: (b₁ ++ cs)) := by
  intro fuel rest enough ends
  obtain ⟨fuel, rfl⟩ := Nat.exists_eq_succ_of_ne_zero (Nat.ne_zero_of_lt enough)
  have length : cs.length < fuel := by
    rw [List.length_cons, List.length_append] at enough
    omega
  have read := h fuel [] rest length
  rw [List.cons_append, List.append_assoc, readValue, (opens.append rest).skipSpace blank]
  obtain ⟨c, tail, rfl, -, -, noClose⟩ := opens
  split
  · next first => cases first; exact absurd rfl noClose
  · rw [read]; rfl

/-- What stands behind an item, and the items that follow. -/
def afterItem (fuel : Nat) (acc : List Json) : List Char → Option (List Json × List Char)
  | ',' :: rest => readItems fuel acc (skipSpace rest)
  | ']' :: rest => some (acc.reverse, rest)
  | _ => none

theorem readItems_item {fuel : Nat} (h : ReadAs j cs) (enough : cs.length < fuel)
    (ends : EndsNumber more) (acc : List Json) :
    readItems (fuel + 1) acc (cs ++ more) = afterItem fuel (j :: acc) (skipSpace more) := by
  rw [readItems, h fuel more enough ends]
  rfl

theorem readAsItems_last (h : ReadAs j cs) (blank : Blank b₁) :
    ReadAsItems [j] (cs ++ (b₁ ++ [']'])) := by
  intro fuel acc rest enough
  obtain ⟨fuel, rfl⟩ := Nat.exists_eq_succ_of_ne_zero (Nat.ne_zero_of_lt enough)
  simp only [List.length_append, List.length_singleton] at enough
  have ends := endsNumber_blank blank (endsNumber_mark (c := ']') (by decide) rest)
  rw [List.append_assoc, List.append_assoc, List.singleton_append,
    readItems_item h (by omega) ends, skipSpace_blank blank rfl]
  exact congrArg (fun items => some (items, rest)) (List.reverse_cons)

theorem readAsItems_more (h : ReadAs j cs) (before : Blank b₁) (after : Blank b₂)
    (opens : Opens more) (follow : ReadAsItems items more) :
    ReadAsItems (j :: items) (cs ++ (b₁ ++ ',' :: (b₂ ++ more))) := by
  intro fuel acc rest enough
  obtain ⟨fuel, rfl⟩ := Nat.exists_eq_succ_of_ne_zero (Nat.ne_zero_of_lt enough)
  simp only [List.length_append, List.length_cons] at enough
  have read := follow fuel (j :: acc) rest (by omega)
  have ends := endsNumber_blank before (endsNumber_mark (c := ',') (by decide) (b₂ ++ (more ++ rest)))
  rw [List.append_assoc, List.append_assoc, List.cons_append, List.append_assoc,
    readItems_item h (by omega) ends, skipSpace_blank before rfl]
  show readItems fuel (j :: acc) (skipSpace (b₂ ++ (more ++ rest))) = _
  rw [(opens.append rest).skipSpace after, read, List.reverse_cons, List.append_assoc]
  rfl

/-- What stands behind a field, and the fields that follow. -/
def afterField (fuel : Nat) (acc : Fields) : List Char → Option (Option Fields × List Char)
  | ',' :: rest => (readFields fuel acc (skipSpace rest)).map (fun r => (r.1, r.2))
  | '\x7d' :: rest => some (some acc.reverse, rest)
  | _ => none

theorem readFields_field {fuel : Nat} (named : Blank b₁) (valued : Blank b₂) (opens : Opens cs)
    (h : ReadAs v cs) (enough : cs.length < fuel) (ends : EndsNumber more) (acc : Fields) :
    readFields (fuel + 1) acc (quote name ++ (b₁ ++ ':' :: (b₂ ++ (cs ++ more)))) =
      afterField fuel ((name, v) :: acc) (skipSpace more) := by
  rw [quote, List.cons_append, List.append_assoc, List.singleton_append, readFields,
    readText_quoted]
  dsimp only
  rw [skipSpace_blank named rfl]
  split
  · next rest colon =>
      cases colon
      rw [(opens.append _).skipSpace valued, h fuel _ enough ends]
      rfl
  · next noColon => exact absurd rfl (noColon _)

theorem readAsFields_last (named : Blank b₁) (valued : Blank b₂) (opens : Opens cs)
    (h : ReadAs v cs) (blank : Blank b₃) :
    ReadAsFields [(name, v)]
      (quote name ++ (b₁ ++ ':' :: (b₂ ++ (cs ++ (b₃ ++ ['\x7d']))))) := by
  intro fuel acc rest enough
  obtain ⟨fuel, rfl⟩ := Nat.exists_eq_succ_of_ne_zero (Nat.ne_zero_of_lt enough)
  simp only [List.length_append, List.length_cons] at enough
  have ends := endsNumber_blank blank (endsNumber_mark (c := '\x7d') (by decide) rest)
  simp only [List.append_assoc, List.cons_append, List.nil_append]
  rw [readFields_field named valued opens h (by omega) ends, skipSpace_blank blank rfl]
  exact congrArg (fun fields => some (some fields, rest)) (List.reverse_cons)

theorem readAsFields_more (named : Blank b₁) (valued : Blank b₂) (opensValue : Opens cs)
    (h : ReadAs v cs) (before : Blank b₃) (after : Blank b₄) (opens : Opens more)
    (follow : ReadAsFields fields more) :
    ReadAsFields ((name, v) :: fields)
      (quote name ++ (b₁ ++ ':' :: (b₂ ++ (cs ++ (b₃ ++ ',' :: (b₄ ++ more)))))) := by
  intro fuel acc rest enough
  obtain ⟨fuel, rfl⟩ := Nat.exists_eq_succ_of_ne_zero (Nat.ne_zero_of_lt enough)
  simp only [List.length_append, List.length_cons] at enough
  have behind := follow fuel ((name, v) :: acc) rest (by omega)
  have ends := endsNumber_blank before (endsNumber_mark (c := ',') (by decide) (b₄ ++ (more ++ rest)))
  simp only [List.append_assoc, List.cons_append]
  rw [readFields_field named valued opensValue h (by omega) ends, skipSpace_blank before rfl]
  show (readFields fuel ((name, v) :: acc) (skipSpace (b₄ ++ (more ++ rest)))).map _ = _
  rw [(opens.append rest).skipSpace after, behind, List.reverse_cons, List.append_assoc]
  rfl

mutual

/-- Every text of a value is read as the value. -/
theorem Written.readAs {j : Json} {cs : List Char} : Written j cs → ReadAs j cs
  | .null => readAs_word fun _ _ => rfl
  | .yes => readAs_word fun _ _ => rfl
  | .no => readAs_word fun _ _ => rfl
  | .number h => readAs_number h
  | .string s => readAs_string s
  | .emptyArray blank => readAs_emptyArray blank
  | .array blank h => readAs_array blank h.opens h.readAs
  | .emptyObject blank => readAs_emptyObject blank
  | .object blank h => readAs_object blank h.opens h.readAs

theorem WrittenItems.readAs {items : List Json} {cs : List Char} :
    WrittenItems items cs → ReadAsItems items cs
  | .last h blank => readAsItems_last h.readAs blank
  | .more h before after follow =>
      readAsItems_more h.readAs before after follow.opens follow.readAs

theorem WrittenFields.readAs {fields : Fields} {cs : List Char} :
    WrittenFields fields cs → ReadAsFields fields cs
  | .last named valued h blank => readAsFields_last named valued h.opens h.readAs blank
  | .more named valued h before after follow =>
      readAsFields_more named valued h.opens h.readAs before after follow.opens follow.readAs

end

end Reading

section Texts

variable {n : Nat} {j : Json} {cs b b₂ : List Char}

/-- A text of a value, with white space around it, has that value. -/
theorem Written.parse (h : Written j cs) (before : Blank b) (after : Blank b₂) :
    parse (String.ofList (b ++ (cs ++ b₂))) = some j := by
  have ends : EndsNumber b₂ := by
    have ended := endsNumber_blank after endsNumber_nil
    rwa [List.append_nil] at ended
  have all : skipSpace b₂ = [] := by
    rw [← List.append_nil b₂, skipSpace, List.dropWhile_append_of_pos after]
    rfl
  have read := h.readAs (2 * (b ++ (cs ++ b₂)).length + 2) b₂
    (by simp only [List.length_append]; omega) ends
  rw [Json.parse, String.toList_ofList]
  rw [(h.opens.append b₂).skipSpace before, read]
  show (if (skipSpace b₂).isEmpty then some j else none) = some j
  rw [all]
  rfl

theorem blank_newline (depth : Nat) : Blank (newline depth) := by
  intro c member
  rcases List.mem_cons.mp member with rfl | member
  · rfl
  · cases List.eq_of_mem_replicate member
    rfl

theorem blank_nil : Blank [] := nofun

/-- The compact text of the items of an array. -/
theorem writtenItems_render {rest : List Json} (first : Written j j.render)
    (others : ∀ i ∈ rest, Written i i.render) :
    WrittenItems (j :: rest) (j.render ++ renderItems rest ++ [']']) := by
  induction rest generalizing j with
  | nil =>
      rw [renderItems, List.append_nil]
      exact .last first blank_nil
  | cons i rest ih =>
      obtain ⟨next, others⟩ := List.forall_mem_cons.mp others
      rw [renderItems, List.append_assoc, List.cons_append]
      exact (WrittenItems.more first blank_nil blank_nil (ih next others) :)

theorem writtenFields_render {f : String × Json} {rest : Fields} (first : Written f.2 f.2.render)
    (others : ∀ g ∈ rest, Written g.2 g.2.render) :
    WrittenFields (f :: rest) (quote f.1 ++ ':' :: f.2.render ++ renderFields rest ++ ['\x7d']) := by
  induction rest generalizing f with
  | nil =>
      rw [renderFields, List.append_nil, List.append_assoc, List.cons_append]
      exact .last blank_nil blank_nil first blank_nil
  | cons g rest ih =>
      obtain ⟨next, others⟩ := List.forall_mem_cons.mp others
      rw [renderFields, List.append_assoc, List.append_assoc, List.cons_append, List.cons_append]
      exact (WrittenFields.more blank_nil blank_nil first blank_nil blank_nil
        (ih next others) :)

theorem written_render (h : Sound Number.ReadsBack n j) : Written j j.render := by
  induction h with
  | null => exact .null
  | bool b => cases b; exacts [.no, .yes]
  | number h => exact .number h
  | string s => exact .string s
  | @array n items _ ih =>
      cases items with
      | nil => exact .emptyArray blank_nil
      | cons j rest =>
          obtain ⟨first, others⟩ := List.forall_mem_cons.mp ih
          exact (Written.array blank_nil (writtenItems_render first others) :)
  | @object n fields _ ih =>
      cases fields with
      | nil => exact .emptyObject blank_nil
      | cons f rest =>
          obtain ⟨first, others⟩ := List.forall_mem_cons.mp ih
          exact (Written.object blank_nil (writtenFields_render first others) :)

theorem writtenItems_indent {depth : Nat} {rest : List Json}
    (first : Written j (indent depth j)) (others : ∀ i ∈ rest, Written i (indent depth i))
    (blank : Blank b) :
    WrittenItems (j :: rest) (indent depth j ++ indentItems depth rest ++ b ++ [']']) := by
  induction rest generalizing j with
  | nil =>
      rw [indentItems, List.append_nil, List.append_assoc]
      exact .last first blank
  | cons i rest ih =>
      obtain ⟨next, others⟩ := List.forall_mem_cons.mp others
      simp only [indentItems, List.append_assoc, List.cons_append]
      have rest := ih next others
      simp only [List.append_assoc] at rest
      exact .more first blank_nil (blank_newline depth) rest

theorem writtenFields_indent {depth : Nat} {f : String × Json} {rest : Fields}
    (first : Written f.2 (indent depth f.2)) (others : ∀ g ∈ rest, Written g.2 (indent depth g.2))
    (blank : Blank b) :
    WrittenFields (f :: rest)
      (quote f.1 ++ ':' :: ' ' :: indent depth f.2 ++ indentFields depth rest ++ b ++ ['\x7d']) := by
  have space : Blank [' '] := by
    intro c member
    cases List.mem_singleton.mp member
    rfl
  induction rest generalizing f with
  | nil =>
      simp only [indentFields, List.append_nil, List.append_assoc, List.cons_append]
      exact .last blank_nil space first blank
  | cons g rest ih =>
      obtain ⟨next, others⟩ := List.forall_mem_cons.mp others
      simp only [indentFields, List.append_assoc, List.cons_append]
      have rest := ih next others
      simp only [List.append_assoc, List.cons_append] at rest
      exact .more blank_nil space first blank_nil (blank_newline depth) rest

theorem written_indent (h : Sound Number.ReadsBack n j) (depth : Nat) :
    Written j (indent depth j) := by
  induction h generalizing depth with
  | null => exact .null
  | bool b => cases b; exacts [.no, .yes]
  | number h => exact .number h
  | string s => exact .string s
  | @array n items _ ih =>
      cases items with
      | nil => exact .emptyArray blank_nil
      | cons j rest =>
          obtain ⟨first, others⟩ := List.forall_mem_cons.mp fun i item => ih i item (depth + 1)
          have items := writtenItems_indent first others (blank_newline depth)
          simp only [List.append_assoc] at items
          simp only [indent, List.append_assoc]
          exact .array (blank_newline (depth + 1)) items
  | @object n fields _ ih =>
      cases fields with
      | nil => exact .emptyObject blank_nil
      | cons f rest =>
          obtain ⟨first, others⟩ := List.forall_mem_cons.mp fun g field => ih g field (depth + 1)
          have fields := writtenFields_indent first others (blank_newline depth)
          simp only [List.append_assoc, List.cons_append] at fields
          simp only [indent, List.append_assoc, List.cons_append]
          exact .object (blank_newline (depth + 1)) fields

/-- What is written compactly is read back. -/
theorem parse_compact (h : Sound Number.ReadsBack n j) : Json.parse j.compact = some j := by
  have read := (written_render h).parse blank_nil blank_nil
  rwa [List.append_nil] at read

/-- What is written with indentation is read back. -/
theorem parse_pretty (h : Sound Number.ReadsBack n j) : Json.parse j.pretty = some j := by
  have read := (written_indent h 0).parse blank_nil blank_nil
  rwa [List.append_nil] at read

/-- What stays within the depth that is read is read back as a whole document. -/
theorem read_compact (h : Sound Number.ReadsBack maxDepth j) : Json.read j.compact = some j := by
  have kept : (j.isReadable && decide (j.depth ≤ maxDepth)) = true := by
    rw [h.readable, decide_eq_true h.depth_le]
    rfl
  rw [Json.read, parse_compact h, Option.filter_some, if_pos kept]

/-- The doubles of a document are read back. -/
def RealsReadBack (j : Json) : Prop := ∀ x, .real x ∈ j.numbers → (Number.real x).ReadsBack

/-- Integers that fit into 64 bits are read back, so only the doubles are in question. -/
theorem Sound.readsBack (h : Sound Number.Fits n j) (reals : j.RealsReadBack) :
    Sound Number.ReadsBack n j := by
  refine h.imp fun x member fits => ?_
  cases x with
  | integer n => exact readsBack_integer fits
  | real x => exact reals x member

/-- A document that has been read is sound. -/
theorem sound_of_read {text : String} (h : Json.read text = some j) :
    Sound Number.Fits maxDepth j := by
  obtain ⟨parsed, kept⟩ := Option.filter_eq_some_iff.mp h
  obtain ⟨readable, shallow⟩ := Bool.and_eq_true_iff.mp kept
  exact .of_parts readable (of_decide_eq_true shallow) (parse_fitting parsed)

end Texts

end KeySheet.Json
