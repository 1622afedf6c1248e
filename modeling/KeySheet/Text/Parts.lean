/-! Cutting a text at single characters. Nothing is lost by it: put together again with the
character at which it was cut, the pieces are the text. -/
namespace KeySheet.Text

/-- The pieces between characters of a kind; one more than there are such characters. -/
def parts (cuts : Char → Bool) : List Char → List (List Char)
  | [] => [[]]
  | c :: cs =>
      if cuts c then [] :: parts cuts cs
      else match parts cuts cs with
        | [] => [[c]]
        | p :: ps => (c :: p) :: ps

theorem parts_ne_nil (cuts : Char → Bool) (cs : List Char) : parts cuts cs ≠ [] := by
  cases cs with
  | nil => simp [parts]
  | cons c cs =>
      unfold parts
      split
      · simp
      · split <;> simp

/-- The pieces between the places of one character, joined by it, are the text. -/
theorem intercalate_parts (x : Char) (cs : List Char) :
    [x].intercalate (parts (· == x) cs) = cs := by
  induction cs with
  | nil => rfl
  | cons c cs ih =>
      unfold parts
      cases hp : parts (· == x) cs with
      | nil => exact absurd hp (parts_ne_nil _ cs)
      | cons p ps =>
          rw [hp] at ih
          by_cases h : c = x
          · simpa [List.intercalate, h] using ih
          · cases ps with
            | nil => simpa [List.intercalate, h] using ih
            | cons q qs => simpa [List.intercalate, h] using ih

theorem parts_append (x : Char) (before after : List Char) :
    parts (· == x) (before ++ x :: after) = parts (· == x) before ++ parts (· == x) after := by
  induction before with
  | nil => simp [parts]
  | cons c cs ih =>
      rw [List.cons_append, parts, parts, ih]
      split
      · rfl
      · cases pieces : parts (· == x) cs with
        | nil => exact absurd pieces (parts_ne_nil _ cs)
        | cons p ps => rfl

theorem parts_of_not_mem {x : Char} {cs : List Char} (h : x ∉ cs) : parts (· == x) cs = [cs] := by
  induction cs with
  | nil => rfl
  | cons c cs ih =>
      rw [List.mem_cons, not_or] at h
      rw [parts, ih h.2, if_neg (by simpa using Ne.symm h.1)]

/-- Pieces without the character, joined by it, are the pieces that a cut at it gives. -/
theorem parts_intercalate {x : Char} {ps : List (List Char)} (filled : ps ≠ [])
    (free : ∀ p ∈ ps, x ∉ p) : parts (· == x) ([x].intercalate ps) = ps := by
  induction ps with
  | nil => exact absurd rfl filled
  | cons p ps ih =>
      have first := parts_of_not_mem (free p List.mem_cons_self)
      cases ps with
      | nil => rw [List.intercalate_singleton, first]
      | cons q qs =>
          have rest := ih (List.cons_ne_nil q qs) fun r member => free r (.tail p member)
          rw [List.intercalate_cons_cons, List.append_assoc, List.singleton_append, parts_append,
            first, rest, List.singleton_append]

/-- A piece has none of the characters at which the text was cut. -/
theorem not_mem_parts (x : Char) {cs piece : List Char} (h : piece ∈ parts (· == x) cs) :
    x ∉ piece := by
  induction cs generalizing piece with
  | nil => simp_all [parts]
  | cons c cs ih =>
      rw [parts] at h
      split at h
      · rcases List.mem_cons.mp h with rfl | later
        · exact List.not_mem_nil
        · exact ih later
      · next other =>
          have differs : x ≠ c := fun same => other (beq_iff_eq.mpr same.symm)
          cases pieces : parts (· == x) cs with
          | nil => exact absurd pieces (parts_ne_nil _ cs)
          | cons p ps =>
              rw [pieces] at h
              rcases List.mem_cons.mp h with rfl | later
              · rw [List.mem_cons, not_or]
                exact ⟨differs, ih (pieces ▸ List.mem_cons_self)⟩
              · exact ih (pieces ▸ List.mem_cons_of_mem _ later)

end KeySheet.Text
