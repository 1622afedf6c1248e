/-! White space as Unicode's `White_Space` property has it, and the two ways the sheet reader uses
it: trimming a line and taking its first word. -/
namespace KeySheet.Text

/-- The twenty-five characters with the property `White_Space`. -/
def isBlank (c : Char) : Bool :=
  let n := c.toNat
  (9 ≤ n && n ≤ 13) || n == 0x20 || n == 0x85 || n == 0xA0 || n == 0x1680 ||
    (0x2000 ≤ n && n ≤ 0x200A) || n == 0x2028 || n == 0x2029 || n == 0x202F ||
    n == 0x205F || n == 0x3000

def trimStart (cs : List Char) : List Char := cs.dropWhile isBlank

def trimEnd (cs : List Char) : List Char := (cs.reverse.dropWhile isBlank).reverse

/-- The line without the white space at either end. -/
def trim (cs : List Char) : List Char := trimEnd (trimStart cs)

/-- The first run of characters that are not white space, if there is one. -/
def firstWord (cs : List Char) : Option (List Char) :=
  match (trimStart cs).takeWhile (fun c => !isBlank c) with
  | [] => none
  | w => some w

/-- White space only; the empty line counts. -/
def allBlank (cs : List Char) : Bool := cs.all isBlank

theorem trimStart_cons (c : Char) (cs : List Char) :
    trimStart (c :: cs) = if isBlank c then trimStart cs else c :: cs := by
  unfold trimStart
  rw [List.dropWhile_cons]

theorem trimStart_eq_nil_iff (cs : List Char) : trimStart cs = [] ↔ allBlank cs = true := by
  induction cs with
  | nil => simp [trimStart, allBlank]
  | cons c cs ih =>
      rw [trimStart_cons]
      by_cases h : isBlank c = true
      · simpa [h, allBlank] using ih
      · simp [h, allBlank]

/-- A line trims to nothing exactly when it holds white space only. -/
theorem trim_eq_nil_iff (line : List Char) : trim line = [] ↔ allBlank line = true := by
  have back (cs : List Char) : trimEnd cs = [] ↔ allBlank cs = true := by
    rw [trimEnd, List.reverse_eq_nil_iff]
    exact (trimStart_eq_nil_iff cs.reverse).trans (by simp [allBlank])
  constructor
  · intro trimmed
    have rest := (back _).mp trimmed
    cases start : trimStart line with
    | nil => exact (trimStart_eq_nil_iff line).mp start
    | cons c cs =>
        -- What is left in front begins with no white space.
        have first : isBlank c = false := by
          have := List.head?_dropWhile_not isBlank line
          rw [show line.dropWhile isBlank = c :: cs from start] at this
          simpa using this
        rw [start] at rest
        simp [allBlank, first] at rest
  · intro blank
    rw [trim, (trimStart_eq_nil_iff line).mpr blank]
    rfl

/-- White space at the end of a line makes no difference to its trimmed form. -/
theorem trim_concat {c : Char} (h : isBlank c = true) (cs : List Char) :
    trim (cs ++ [c]) = trim cs := by
  have back (front : List Char) : trimEnd (front ++ [c]) = trimEnd front := by
    rw [trimEnd, List.reverse_concat, List.dropWhile_cons_of_pos h]
    rfl
  have front : trimStart (cs ++ [c]) =
      if (trimStart cs).isEmpty then [] else trimStart cs ++ [c] := by
    unfold trimStart
    rw [List.dropWhile_append, List.dropWhile_cons_of_pos h, List.dropWhile_nil]
  rw [trim, front]
  split
  · next empty => rw [trim, List.isEmpty_iff.mp empty]
  · exact back _

theorem trimStart_append {front : List Char} (blank : ∀ c ∈ front, isBlank c = true)
    (cs : List Char) : trimStart (front ++ cs) = trimStart cs :=
  List.dropWhile_append_of_pos blank

/-- White space around a line makes no difference to its trimmed form. -/
theorem trim_padded {front back : List Char} (before : ∀ c ∈ front, isBlank c = true)
    (after : ∀ c ∈ back, isBlank c = true) (cs : List Char) :
    trim (front ++ cs ++ back) = trim cs := by
  have ahead (cs : List Char) : trim (front ++ cs) = trim cs := by
    rw [trim, trimStart_append before]
    rfl
  induction back generalizing cs with
  | nil => rw [List.append_nil, ahead]
  | cons c back ih =>
      have rest : ∀ c ∈ back, isBlank c = true := fun c member => after c (.tail _ member)
      rw [← List.singleton_append, ← List.append_assoc, List.append_assoc front, ih rest]
      exact trim_concat (after c List.mem_cons_self) cs

/-- A line is its trimmed form with white space around it. -/
theorem exists_padded (cs : List Char) : ∃ front back,
    (∀ c ∈ front, isBlank c = true) ∧ (∀ c ∈ back, isBlank c = true) ∧
      cs = front ++ trim cs ++ back := by
  let back := ((trimStart cs).reverse.takeWhile isBlank).reverse
  refine ⟨cs.takeWhile isBlank, back, ?_, ?_, ?_⟩
  · intro c member
    exact List.all_eq_true.mp List.all_takeWhile c member
  · intro c member
    exact List.all_eq_true.mp List.all_takeWhile c (List.mem_reverse.mp member)
  · have trimmed : trim cs ++ back = trimStart cs := by
      rw [trim, trimEnd, ← List.reverse_append, List.takeWhile_append_dropWhile,
        List.reverse_reverse]
    rw [List.append_assoc, trimmed]
    exact List.takeWhile_append_dropWhile.symm

theorem trim_trim (cs : List Char) : trim (trim cs) = trim cs := by
  obtain ⟨front, back, before, after, padded⟩ := exists_padded cs
  calc trim (trim cs) = trim (front ++ trim cs ++ back) := (trim_padded before after _).symm
    _ = trim cs := by rw [← padded]

end KeySheet.Text
