/-! The ASCII classes and folds that the command line, link detection and the sheet marks use, and
prefix removal on character lists. None of them looks beyond ASCII: every other character is
passed through unchanged. -/
namespace KeySheet.Text

def isAsciiDigit (c : Char) : Bool := '0' ≤ c && c ≤ '9'

def isAsciiLetter (c : Char) : Bool := ('a' ≤ c && c ≤ 'z') || ('A' ≤ c && c ≤ 'Z')

def isAsciiAlphanumeric (c : Char) : Bool := isAsciiDigit c || isAsciiLetter c

/-- Printable ASCII other than letters, digits and the space. -/
def isAsciiPunctuation (c : Char) : Bool :=
  '!' ≤ c && c ≤ '~' && !isAsciiAlphanumeric c

/-- Upper-case ASCII letters become lower-case ones. -/
def foldCase (cs : List Char) : List Char := cs.map Char.toLower

/-- What follows `head`, when the text begins with it. -/
def stripHead : List Char → List Char → Option (List Char)
  | [], cs => some cs
  | _ :: _, [] => none
  | h :: head, c :: cs => if h = c then stripHead head cs else none

/-- What follows `head`, or the whole text when it does not begin with it. -/
def dropHead (head cs : List Char) : List Char := (stripHead head cs).getD cs

theorem stripHead_eq_some_iff {head cs rest : List Char} :
    stripHead head cs = some rest ↔ cs = head ++ rest := by
  induction head generalizing cs with
  | nil => simp [stripHead, eq_comm]
  | cons h head ih =>
      cases cs with
      | nil => simp [stripHead]
      | cons c cs =>
          by_cases hc : h = c
          · simp [stripHead, hc, ih]
          · simp [stripHead, hc, Ne.symm hc]

theorem stripHead_eq_none_iff {head cs : List Char} : stripHead head cs = none ↔ ¬ head <+: cs := by
  rw [Option.eq_none_iff_forall_ne_some]
  constructor
  · rintro none ⟨rest, whole⟩
    exact none rest (stripHead_eq_some_iff.mpr whole.symm)
  · intro other rest stripped
    exact other ⟨rest, (stripHead_eq_some_iff.mp stripped).symm⟩

/-- A text that does not begin with `head` is what is left of itself, and of `head` before it. -/
theorem dropHead_eq_iff {head cs rest : List Char} (other : ¬ head <+: rest) :
    dropHead head cs = rest ↔ cs = rest ∨ cs = head ++ rest := by
  unfold dropHead
  cases stripped : stripHead head cs with
  | none =>
      rw [stripHead_eq_none_iff] at stripped
      rw [Option.getD_none]
      constructor
      · exact .inl
      · rintro (same | rfl)
        · exact same
        · exact absurd (List.prefix_append head rest) stripped
  | some left =>
      rw [stripHead_eq_some_iff] at stripped
      rw [Option.getD_some, stripped, List.append_cancel_left_eq]
      constructor
      · exact .inr
      · rintro (rfl | same)
        · exact absurd (List.prefix_append head left) other
        · exact same

end KeySheet.Text
