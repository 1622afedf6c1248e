import KeySheet.Json.Reader
import Mathlib.Data.List.TakeWhile

/-! How much of a text the reading of a number takes. It takes a run of characters that does not
depend on what follows: in front of any text that cannot go on with the number, the same run is
taken and gives the same value. -/
namespace KeySheet.Json

open Text (isAsciiDigit)

/-- Begins with no digit. -/
def EndsDigits (cs : List Char) : Prop := (cs.head?.map isAsciiDigit).getD false = false

/-- Begins with nothing that could go on with a number. -/
structure EndsNumber (cs : List Char) : Prop where
  digits : EndsDigits cs
  other : ∀ c ∈ cs.head?, c ≠ '.' ∧ c ≠ 'e' ∧ c ≠ 'E'

/-- The reading takes a run of characters, and takes the same run in front of any text that ends
it. -/
def Takes {α : Type} (ends : List Char → Prop) (read : List Char → Option (α × List Char))
    (cs : List Char) (r : α × List Char) : Prop :=
  ∃ used, cs = used ++ r.2 ∧ ∀ more, ends more → read (used ++ more) = some (r.1, more)

namespace EndsDigits

variable {c : Char} {cs used rest more : List Char}

theorem of_cons (h : EndsDigits (c :: cs)) : ¬ isAsciiDigit c = true := Bool.eq_false_iff.mp h

/-- A run that begins with a digit is not empty when no digit follows it. -/
theorem used_cons (h : EndsDigits rest) (parts : cs = used ++ rest) (digit : ¬ EndsDigits cs) :
    ∃ c tail, used = c :: tail := by
  cases used with
  | nil => exact absurd (parts ▸ h) digit
  | cons c tail => exact ⟨c, tail, rfl⟩

/-- What follows a run may be replaced by another text that ends the digits. -/
theorem replace (h : EndsDigits (used ++ rest)) (ends : EndsDigits more) :
    EndsDigits (used ++ more) := by
  cases used with
  | nil => exact ends
  | cons c used => exact h

theorem takeWhile_append (h : EndsDigits cs) (digits : ∀ c ∈ used, isAsciiDigit c = true) :
    (used ++ cs).takeWhile isAsciiDigit = used := by
  rw [List.takeWhile_append_of_pos digits]
  cases cs with
  | nil => rw [List.takeWhile_nil, List.append_nil]
  | cons c cs => rw [List.takeWhile_cons_of_neg h.of_cons, List.append_nil]

theorem dropWhile_append (h : EndsDigits cs) (digits : ∀ c ∈ used, isAsciiDigit c = true) :
    (used ++ cs).dropWhile isAsciiDigit = cs := by
  rw [List.dropWhile_append_of_pos digits]
  cases cs with
  | nil => rfl
  | cons c cs => rw [List.dropWhile_cons_of_neg h.of_cons]

theorem gatherWhole (h : EndsDigits cs) (n : Nat) : gatherWhole n cs = (⟨n, 0⟩, cs) := by
  cases cs with
  | nil => rfl
  | cons c cs => rw [Json.gatherWhole, if_neg h.of_cons]

theorem gatherFraction (h : EndsDigits cs) (g : Gathered) : gatherFraction g cs = (g, cs) := by
  cases cs with
  | nil => rfl
  | cons c cs => rw [Json.gatherFraction, if_neg h.of_cons]

theorem dropWhile (cs : List Char) : EndsDigits (cs.dropWhile isAsciiDigit) := by
  induction cs with
  | nil => rfl
  | cons c cs ih =>
      rw [List.dropWhile_cons]
      split
      · exact ih
      · next other => exact Bool.eq_false_iff.mpr other

end EndsDigits

theorem digits_of_takeWhile (cs : List Char) :
    ∀ c ∈ cs.takeWhile isAsciiDigit, isAsciiDigit c = true :=
  List.all_eq_true.mp List.all_takeWhile

section Gather

theorem gatherWhole_ends (n : Nat) (cs : List Char) : EndsDigits (gatherWhole n cs).2 := by
  fun_induction gatherWhole n cs with
  | case1 n => rfl
  | case2 n c rest digit fits ih => exact ih
  | case3 n c rest digit full => exact .dropWhile (c :: rest)
  | case4 n c rest other => exact Bool.eq_false_iff.mpr other

theorem gatherFraction_ends (g : Gathered) (cs : List Char) :
    EndsDigits (gatherFraction g cs).2 := by
  fun_induction gatherFraction g cs with
  | case1 g => rfl
  | case2 g c rest digit fits ih => exact ih
  | case3 g c rest digit full => exact .dropWhile rest
  | case4 g c rest other => exact Bool.eq_false_iff.mpr other

theorem gatherWhole_takes (n : Nat) (cs : List Char) :
    ∃ used, cs = used ++ (gatherWhole n cs).2 ∧
      ∀ more, EndsDigits more → gatherWhole n (used ++ more) = ((gatherWhole n cs).1, more) := by
  fun_induction gatherWhole n cs with
  | case1 n => exact ⟨[], rfl, fun more ends => ends.gatherWhole n⟩
  | case2 n c rest digit fits ih =>
      obtain ⟨used, parts, same⟩ := ih
      refine ⟨c :: used, congrArg (c :: ·) parts, fun more ends => ?_⟩
      rw [List.cons_append, gatherWhole, if_pos digit, if_pos fits]
      exact same more ends
  | case3 n c rest digit full =>
      -- The first digit does not fit, so the run is all the digits that there are.
      have first : (c :: rest).takeWhile isAsciiDigit = c :: rest.takeWhile isAsciiDigit :=
        List.takeWhile_cons_of_pos digit
      refine ⟨_, List.takeWhile_append_dropWhile.symm, fun more ends => ?_⟩
      have taken := ends.takeWhile_append (digits_of_takeWhile (c :: rest))
      have left := ends.dropWhile_append (digits_of_takeWhile (c :: rest))
      rw [first, List.cons_append] at taken left
      rw [first, List.cons_append, gatherWhole, if_pos digit, if_neg full, taken, left, ← first]
  | case4 n c rest other => exact ⟨[], rfl, fun more ends => ends.gatherWhole n⟩

theorem gatherFraction_takes (g : Gathered) (cs : List Char) :
    ∃ used, cs = used ++ (gatherFraction g cs).2 ∧
      ∀ more, EndsDigits more →
        gatherFraction g (used ++ more) = ((gatherFraction g cs).1, more) := by
  fun_induction gatherFraction g cs with
  | case1 g => exact ⟨[], rfl, fun more ends => ends.gatherFraction g⟩
  | case2 g c rest digit fits ih =>
      obtain ⟨used, parts, same⟩ := ih
      refine ⟨c :: used, congrArg (c :: ·) parts, fun more ends => ?_⟩
      rw [List.cons_append, gatherFraction, if_pos digit, if_pos fits]
      exact same more ends
  | case3 g c rest digit full =>
      refine ⟨c :: rest.takeWhile isAsciiDigit,
        congrArg (c :: ·) List.takeWhile_append_dropWhile.symm, fun more ends => ?_⟩
      rw [List.cons_append, gatherFraction, if_pos digit, if_neg full,
        ends.dropWhile_append (digits_of_takeWhile rest)]
  | case4 g c rest other => exact ⟨[], rfl, fun more ends => ends.gatherFraction g⟩

end Gather

section Exponent

/-- The digits of an exponent behind its sign. -/
def readPlaces (minus : Bool) (g : Gathered) (negative : Bool) (ds : List Char) :
    Option (Json × List Char) :=
  match Text.readDigits (ds.takeWhile isAsciiDigit) with
  | none => none
  | some n => some (numberOr (realOf g negative n) minus, ds.dropWhile isAsciiDigit)

variable {minus negative : Bool} {g : Gathered} {cs : List Char} {r : Json × List Char}

/-- At least one digit is taken, so that the run shows whether it has a sign. -/
theorem readPlaces_takes (h : readPlaces minus g negative cs = some r) :
    ∃ c tail, cs = c :: tail ++ r.2 ∧
      ∀ more, EndsDigits more →
        readPlaces minus g negative (c :: tail ++ more) = some (r.1, more) := by
  unfold readPlaces at h
  split at h
  · cases h
  · next n value =>
      cases h
      cases run : cs.takeWhile isAsciiDigit with
      | nil => rw [run] at value; cases value
      | cons c tail =>
          refine ⟨c, tail, ?_, fun more ends => ?_⟩
          · rw [← run, List.takeWhile_append_dropWhile]
          · rw [← run, readPlaces, ends.takeWhile_append (digits_of_takeWhile cs),
              ends.dropWhile_append (digits_of_takeWhile cs), value]

theorem readExponent_unsigned {c : Char} (noPlus : c ≠ '+') (noDash : c ≠ '-') (minus : Bool)
    (g : Gathered) (cs : List Char) :
    readExponent minus g (c :: cs) = readPlaces minus g false (c :: cs) := by
  unfold readExponent
  split
  next sign =>
    split at sign
    · next first => cases first; exact absurd rfl noPlus
    · next first => cases first; exact absurd rfl noDash
    · cases sign; rfl

theorem readExponent_takes (h : readExponent minus g cs = some r) :
    Takes EndsDigits (readExponent minus g) cs r := by
  cases cs with
  | nil => cases h
  | cons c ds =>
      by_cases plus : c = '+'
      · subst plus
        have places : readPlaces minus g false ds = some r := h
        obtain ⟨d, tail, rfl, same⟩ := readPlaces_takes places
        exact ⟨'+' :: d :: tail, rfl, same⟩
      by_cases dash : c = '-'
      · subst dash
        have places : readPlaces minus g true ds = some r := h
        obtain ⟨d, tail, rfl, same⟩ := readPlaces_takes places
        exact ⟨'-' :: d :: tail, rfl, same⟩
      rw [readExponent_unsigned plus dash] at h
      obtain ⟨d, tail, parts, same⟩ := readPlaces_takes h
      refine ⟨d :: tail, parts, fun more ends => ?_⟩
      obtain ⟨rfl, -⟩ := List.cons.inj parts
      rw [List.cons_append, readExponent_unsigned plus dash]
      exact same more ends

theorem finishReal_plain (ends : EndsNumber cs) (minus : Bool) (g : Gathered) :
    finishReal minus g cs = some (numberOr (realOf g false 0) minus, cs) := by
  unfold finishReal
  split
  · exact absurd rfl (ends.other 'e' rfl).2.1
  · exact absurd rfl (ends.other 'E' rfl).2.2
  · rfl

theorem finishReal_takes (h : finishReal minus g cs = some r) :
    Takes EndsNumber (finishReal minus g) cs r := by
  unfold finishReal at h
  split at h
  · obtain ⟨used, rfl, same⟩ := readExponent_takes h
    exact ⟨'e' :: used, rfl, fun more ends => same more ends.digits⟩
  · obtain ⟨used, rfl, same⟩ := readExponent_takes h
    exact ⟨'E' :: used, rfl, fun more ends => same more ends.digits⟩
  · cases h
    exact ⟨[], rfl, fun more ends => finishReal_plain ends minus g⟩

end Exponent

section Number

/-- The digits of a number in front of its point or exponent. -/
def readWhole : List Char → Option (Gathered × List Char)
  | '0' :: rest => if (rest.head?.map isAsciiDigit).getD false then none else some (⟨0, 0⟩, rest)
  | c :: rest => if isAsciiDigit c then some (gatherWhole 0 (c :: rest)) else none
  | [] => none

/-- What follows those digits. -/
def readBehind (minus : Bool) (r : Gathered × List Char) : Option (Json × List Char) :=
  match r.2 with
  | '.' :: ds =>
      if (ds.head?.map isAsciiDigit).getD false then
        finishReal minus (gatherFraction r.1 ds).1 (gatherFraction r.1 ds).2
      else none
  | 'e' :: _ | 'E' :: _ => finishReal minus r.1 r.2
  | _ =>
      if r.1.exponent = 0 then some (.number (integerOrReal minus r.1.significand), r.2)
      else finishReal minus r.1 r.2

theorem readNumber_cons {c : Char} (notZero : c ≠ '0') (minus : Bool) (cs : List Char) :
    readNumber minus (c :: cs) =
      if isAsciiDigit c then readBehind minus (gatherWhole 0 (c :: cs)) else none := by
  unfold readNumber
  split
  · next first => cases first; exact absurd rfl notZero
  · next first => cases first; rfl
  · next first => cases first

theorem readNumber_eq (minus : Bool) (cs : List Char) :
    readNumber minus cs = (readWhole cs).bind (readBehind minus) := by
  unfold readWhole
  split
  · split
    · next more => exact if_pos more
    · next alone => exact if_neg alone
  · next c rest notZero =>
      rw [readNumber_cons notZero]
      split <;> rfl
  · rfl

theorem readWhole_zero {cs : List Char} (ends : EndsDigits cs) :
    readWhole ('0' :: cs) = some (⟨0, 0⟩, cs) :=
  if_neg (Bool.eq_false_iff.mp ends)

theorem readWhole_digit {c : Char} (notZero : c ≠ '0') (digit : isAsciiDigit c = true)
    (cs : List Char) : readWhole (c :: cs) = some (gatherWhole 0 (c :: cs)) := by
  unfold readWhole
  split
  · next first => cases first; exact absurd rfl notZero
  · next first => cases first; exact if_pos digit
  · next first => cases first

theorem readWhole_takes {cs : List Char} {r : Gathered × List Char} (h : readWhole cs = some r) :
    Takes EndsDigits readWhole cs r ∧ EndsDigits r.2 := by
  unfold readWhole at h
  split at h
  · split at h
    · cases h
    · next rest alone =>
        cases h
        exact ⟨⟨['0'], rfl, fun more ends => readWhole_zero ends⟩, Bool.eq_false_iff.mpr alone⟩
  · next c rest notZero =>
      split at h
      · next digit =>
          cases h
          have stops := gatherWhole_ends 0 (c :: rest)
          obtain ⟨used, parts, same⟩ := gatherWhole_takes 0 (c :: rest)
          refine ⟨⟨used, parts, fun more ends => ?_⟩, stops⟩
          obtain ⟨d, tail, rfl⟩ := stops.used_cons parts fun none => none.of_cons digit
          obtain ⟨rfl, -⟩ := List.cons.inj parts
          rw [List.cons_append, readWhole_digit notZero digit]
          exact congrArg some (same more ends)
      · cases h
  · cases h

variable {minus : Bool} {g : Gathered} {cs : List Char} {r : Json × List Char}

theorem readBehind_plain (ends : EndsNumber cs) (minus : Bool) (g : Gathered) :
    readBehind minus (g, cs) =
      if g.exponent = 0 then some (.number (integerOrReal minus g.significand), cs)
      else some (numberOr (realOf g false 0) minus, cs) := by
  rw [← finishReal_plain ends]
  unfold readBehind
  split
  · next first => cases first; exact absurd rfl (ends.other '.' rfl).1
  · next first => cases first; exact absurd rfl (ends.other 'e' rfl).2.1
  · next first => cases first; exact absurd rfl (ends.other 'E' rfl).2.2
  · rfl

theorem readBehind_takes (h : readBehind minus (g, cs) = some r) :
    Takes EndsNumber (fun cs => readBehind minus (g, cs)) cs r := by
  unfold readBehind at h
  dsimp only at h
  split at h
  · next ds =>
      split at h
      · next digit =>
          have stops := gatherFraction_ends g ds
          obtain ⟨used, parts, same⟩ := gatherFraction_takes g ds
          obtain ⟨tail, rest, goes⟩ := finishReal_takes h
          obtain ⟨d, run, rfl⟩ := stops.used_cons parts (Bool.eq_false_iff.not_left.mpr digit)
          have first : isAsciiDigit d = true := by rw [parts] at digit; exact digit
          rw [rest] at parts stops
          refine ⟨'.' :: d :: (run ++ tail), by rw [parts]; simp, fun more ends => ?_⟩
          have gathers := same (tail ++ more) (stops.replace ends.digits)
          show readBehind minus (g, '.' :: d :: (run ++ tail ++ more)) = _
          rw [List.append_assoc]
          refine (if_pos first).trans ?_
          rw [← List.cons_append, gathers]
          exact goes more ends
      · cases h
  · obtain ⟨used, rfl, same⟩ := readExponent_takes h
    exact ⟨'e' :: used, rfl, fun more ends => same more ends.digits⟩
  · obtain ⟨used, rfl, same⟩ := readExponent_takes h
    exact ⟨'E' :: used, rfl, fun more ends => same more ends.digits⟩
  · next noPoint noSmall noBig =>
      have still : ∃ value, r = (value, cs) ∧
          ∀ more, EndsNumber more → readBehind minus (g, more) = some (value, more) := by
        split at h
        · next whole =>
            cases h
            exact ⟨_, rfl, fun more ends => by rw [readBehind_plain ends, if_pos whole]⟩
        · next scaled =>
            unfold finishReal at h
            split at h
            · exact absurd rfl (noSmall _)
            · exact absurd rfl (noBig _)
            · cases h
              exact ⟨_, rfl, fun more ends => by rw [readBehind_plain ends, if_neg scaled]⟩
      obtain ⟨value, rfl, same⟩ := still
      exact ⟨[], rfl, same⟩

theorem readNumber_takes (h : readNumber minus cs = some r) :
    Takes EndsNumber (readNumber minus) cs r := by
  rw [readNumber_eq] at h
  obtain ⟨⟨g, behind⟩, whole, follows⟩ := Option.bind_eq_some_iff.mp h
  obtain ⟨⟨used, parts, same⟩, stops⟩ := readWhole_takes whole
  obtain ⟨tail, rest, goes⟩ := readBehind_takes follows
  dsimp only at parts stops
  rw [rest] at parts stops
  refine ⟨used ++ tail, by rw [parts, List.append_assoc], fun more ends => ?_⟩
  rw [readNumber_eq, List.append_assoc, same _ (stops.replace ends.digits)]
  exact goes more ends

end Number

end KeySheet.Json
