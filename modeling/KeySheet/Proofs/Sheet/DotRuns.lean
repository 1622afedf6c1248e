import KeySheet.Proofs.Sheet.Tokenization

/-! The longest literal wins. Wherever rules match, the separator of the place is that of the one
whose literal is longer than all the others; and a run of dots before a space, of whatever length,
ends in one separator, of six, four or three of its dots and the space. -/
namespace KeySheet.Sheet

/-- The literal of a rule stands at an offset of a line, between what its guard asks for. -/
def Rule.Matches (r : Rule) (line : List Char) (pos : Nat) : Prop :=
  ∃ after, line.drop pos = r.literal ++ after ∧ r.guard.Allows (line.take pos).getLast? after

/-- A line in which dots stand before a space. -/
def dotRun (front : List Char) (dots : Nat) (after : List Char) : List Char :=
  front ++ (List.replicate dots '.' ++ ' ' :: after)

/-- The dots of a run that its separator takes in. -/
def takenDots (dots : Nat) : Nat := if 6 ≤ dots then 6 else if 4 ≤ dots then 4 else 3

variable {line front after : List Char} {before : Option Char} {pos dots : Nat}

/-! ## The longest match -/

theorem matches_iff (r : Rule) (line : List Char) (pos : Nat) :
    r.Matches line pos ↔ r.applies (line.take pos).getLast? (line.drop pos) = true :=
  (applies_iff r _ _).symm

/-- The separator of a place is that of the matching rule whose literal is longer than the literals
of all other matching rules. -/
theorem separatorAt_eq_longest_iff {s : Separator} :
    separatorAt line pos = some s ↔
      s.start = pos ∧ s.rule ∈ rules ∧ s.rule.Matches line pos ∧
        ∀ r ∈ rules, r.Matches line pos → r ≠ s.rule →
          r.literal.length < s.rule.literal.length := by
  rw [separatorAt_eq_some_iff]
  refine and_congr_right fun _ => ⟨?_, ?_⟩
  · intro found
    obtain ⟨member, here⟩ := ruleFor_applies found
    refine ⟨member, here, fun r other applies differs => ?_⟩
    exact (ruleFor_longest found other ((matches_iff r _ _).mp applies)).resolve_left differs
  · rintro ⟨member, here, longest⟩
    cases found : ruleFor (line.take pos).getLast? (line.drop pos) with
    | none =>
        obtain ⟨after, split, allowed⟩ := here
        exact absurd allowed (ruleFor_none found member split)
    | some r =>
        -- Two rules, each longer than the other.
        obtain ⟨member', here'⟩ := ruleFor_applies found
        by_cases same : r = s.rule
        · rw [same]
        · have shorter := longest r member' here' same
          rcases ruleFor_longest found member ((matches_iff s.rule _ _).mp here) with same' | longer
          · exact absurd same'.symm same
          · exact absurd shorter (Nat.lt_asymm longer)

theorem separatorAt_eq_none_iff :
    separatorAt line pos = none ↔ ∀ r ∈ rules, ¬ r.Matches line pos := by
  rw [separatorAt_eq, Option.map_eq_none_iff, ruleFor, List.find?_eq_none]
  simp only [matches_iff]

/-- An offset is taken in by one separator at most. -/
theorem ReadsFrom.alone {seps : List Separator} {s t : Separator} (h : ReadsFrom line pos seps)
    (member : s ∈ seps) (member' : t ∈ seps) {offset : Nat}
    (within : s.Covers offset) (within' : t.Covers offset) : s = t := by
  induction seps generalizing pos with
  | nil => cases member
  | cons first rest ih =>
      have behind := h.tail.behind
      rcases List.mem_cons.mp member with rfl | later <;>
        rcases List.mem_cons.mp member' with rfl | later'
      · rfl
      · exact absurd within.2 (Nat.not_lt_of_le (Nat.le_trans (behind t later') within'.1))
      · exact absurd within'.2 (Nat.not_lt_of_le (Nat.le_trans (behind s later) within.1))
      · exact ih h.tail later later'

/-! ## Dots before a space -/

/-- Three, four or six dots and the space are a literal. -/
theorem ruleFor_dots (before : Option Char) (after : List Char)
    (whole : dots = 3 ∨ dots = 4 ∨ dots = 6) :
    ∃ r, ruleFor before (List.replicate dots '.' ++ ' ' :: after) = some r ∧
      r.literal = List.replicate dots '.' ++ [' '] := by
  rcases whole with rfl | rfl | rfl
  · exact ⟨⟨['.', '.', '.', ' '], .whole, .anywhere⟩, rfl, rfl⟩
  · exact ⟨⟨['.', '.', '.', '.', ' '], .whole, .anywhere⟩, rfl, rfl⟩
  · exact ⟨⟨['.', '.', '.', '.', '.', '.', ' '], .quadruple, .anywhere⟩, rfl, rfl⟩

/-- Five dots, or more than six, do not start a separator. -/
theorem ruleFor_surplus (more : dots = 5 ∨ 7 ≤ dots) :
    ruleFor before (List.replicate dots '.' ++ ' ' :: after) = none := by
  rcases more with rfl | more
  · rfl
  · obtain ⟨k, rfl⟩ : ∃ k, dots = 7 + k := ⟨dots - 7, by omega⟩
    rw [← List.replicate_append_replicate, List.append_assoc]
    rfl

theorem takenDots_cases (three : 3 ≤ dots) :
    6 ≤ dots ∧ takenDots dots = 6 ∨ 4 ≤ dots ∧ dots < 6 ∧ takenDots dots = 4 ∨
      dots = 3 ∧ takenDots dots = 3 := by
  rcases Nat.lt_or_ge dots 6 with short | six
  · rcases Nat.lt_or_ge dots 4 with shorter | four
    · exact .inr (.inr ⟨by omega, by rw [takenDots, if_neg (by omega), if_neg (by omega)]⟩)
    · exact .inr (.inl ⟨four, short, by rw [takenDots, if_neg (by omega), if_pos four]⟩)
  · exact .inl ⟨six, by rw [takenDots, if_pos six]⟩

/-- In a literal the dots come first. -/
theorem dots_lead : ∀ r ∈ rules, ∀ i < r.literal.length,
    r.literal[i + 1]? = some '.' → r.literal[i]? = some '.' := by
  decide

/-- What is left of the run at each of its dots. -/
theorem separatorAt_dotRun (front after : List Char) {i : Nat} (inside : i ≤ dots) :
    ∃ before, separatorAt (dotRun front dots after) (front.length + i) =
      (ruleFor before (List.replicate (dots - i) '.' ++ ' ' :: after)).map
        (fun r => ⟨front.length + i, r⟩) := by
  refine ⟨(front ++ List.replicate i '.').getLast?, ?_⟩
  have split : dotRun front dots after =
      (front ++ List.replicate i '.') ++ (List.replicate (dots - i) '.' ++ ' ' :: after) := by
    rw [dotRun, List.append_assoc, ← List.append_assoc (List.replicate i '.'),
      List.replicate_append_replicate, Nat.add_sub_cancel' inside]
  have length : (front ++ List.replicate i '.').length = front.length + i := by
    rw [List.length_append, List.length_replicate]
  rw [split, ← length, separatorAt_append]

/-- A separator that takes in a dot of the run starts no earlier than the dots taken. -/
theorem taken_start_le {s : Separator} (three : 3 ≤ dots) (other : front.getLast? ≠ some '.')
    (here : separatorAt (dotRun front dots after) s.start = some s) (past : front.length ≤ pos)
    (within : s.Covers pos) : front.length + (dots - takenDots dots) ≤ s.start := by
  obtain ⟨first, last⟩ := within
  refine Nat.le_of_not_lt fun early => ?_
  rcases Nat.lt_or_ge s.start front.length with outside | inside
  · -- Its literal spells what ends the front, and a dot behind it.
    obtain ⟨-, -, spelled⟩ := separatorAt_covers here
    have letter (i : Nat) (short : s.start + i < s.stop) :
        s.rule.literal[i]? = (dotRun front dots after)[s.start + i]? := by
      rw [← spelled, List.getElem?_drop, List.getElem?_take_of_lt short]
    obtain ⟨i, end_eq⟩ : ∃ i, front.length = s.start + i + 1 :=
      ⟨front.length - s.start - 1, by omega⟩
    have member := (ruleFor_applies (separatorAt_eq_some_iff.mp here).2).1
    have dot : s.rule.literal[i + 1]? = some '.' := by
      rw [letter _ (by omega), ← Nat.add_assoc, ← end_eq, dotRun,
        List.getElem?_append_right (Nat.le_refl _), Nat.sub_self,
        List.getElem?_append_left (by rw [List.length_replicate]; omega),
        List.getElem?_replicate_of_lt (by omega)]
    have stop : s.stop = s.start + s.rule.literal.length := rfl
    have before := dots_lead _ member i (by omega) dot
    rw [letter _ (by omega), dotRun, List.getElem?_append_left (by omega)] at before
    rw [List.getLast?_eq_getElem?, end_eq, Nat.add_sub_cancel] at other
    exact other before
  · obtain ⟨i, start⟩ : ∃ i, s.start = front.length + i := ⟨s.start - front.length, by omega⟩
    have cases := takenDots_cases three
    obtain ⟨before, place⟩ := separatorAt_dotRun front after (show i ≤ dots by omega)
    rw [ruleFor_surplus (by omega), ← start, here] at place
    cases place

/-- The run ends in a separator, the only one that takes in any of it. -/
theorem dotRun_separator (after : List Char) (three : 3 ≤ dots)
    (other : front.getLast? ≠ some '.') :
    ∃ s ∈ separators (dotRun front dots after),
      s.start = front.length + (dots - takenDots dots) ∧
      s.stop = front.length + dots + 1 ∧
      s.rule.literal = List.replicate (takenDots dots) '.' ++ [' '] ∧
      ∀ t ∈ separators (dotRun front dots after), ∀ pos, front.length ≤ pos →
        pos ≤ front.length + dots → t.Covers pos → t = s := by
  have cases := takenDots_cases three
  have reading := separators_read (dotRun front dots after)
  have left : dots - (dots - takenDots dots) = takenDots dots := by omega
  obtain ⟨before, place⟩ := separatorAt_dotRun front after (Nat.sub_le dots (takenDots dots))
  rw [left] at place
  have whole : takenDots dots = 3 ∨ takenDots dots = 4 ∨ takenDots dots = 6 := by omega
  obtain ⟨r, found, literal⟩ := ruleFor_dots before after whole
  rw [found] at place
  -- What takes in the first of the dots taken starts there.
  obtain ⟨s, member, within⟩ :=
    reading.meets (t := ⟨front.length + (dots - takenDots dots), r⟩) (Nat.zero_le _) place
  have start : s.start = front.length + (dots - takenDots dots) :=
    Nat.le_antisymm within.1
      (taken_start_le three other (reading.read s member) (Nat.le_add_right _ _) within)
  have rule : s.rule = r := by
    have here := reading.read s member
    rw [start, place] at here
    cases here
    rfl
  have stop : s.stop = front.length + dots + 1 := by
    have : s.stop = s.start + s.rule.literal.length := rfl
    rw [rule, literal, List.length_append, List.length_replicate, List.length_singleton] at this
    omega
  refine ⟨s, member, start, stop, by rw [rule, literal], ?_⟩
  intro t member' pos past short within'
  have late := taken_start_le three other (reading.read t member') past within'
  obtain ⟨first, last⟩ := within'
  exact reading.alone member' member ⟨Nat.le_refl _, by omega⟩ ⟨by omega, by omega⟩

/-- Of the rules that match at an offset, the one with the longest literal is taken, and no other is
as long; it ends inside the line, and without a match there is no separator. So a run of three or
more dots before a space ends in one separator: the space and six dots, four of four or five, or all
three. The dots in front of it stay with the chord. -/
theorem longest_rule_wins :
    (∀ line pos,
      (∀ s, separatorAt line pos = some s ↔
        s.start = pos ∧ s.rule ∈ rules ∧ s.rule.Matches line pos ∧
          ∀ r ∈ rules, r.Matches line pos → r ≠ s.rule →
            r.literal.length < s.rule.literal.length) ∧
      (∀ s, separatorAt line pos = some s → s.stop ≤ line.length) ∧
      (separatorAt line pos = none ↔ ∀ r ∈ rules, ¬ r.Matches line pos)) ∧
    ∀ front dots after, 3 ≤ dots → front.getLast? ≠ some '.' →
      ∃ s ∈ separators (dotRun front dots after),
        s.start = front.length + (dots - takenDots dots) ∧
        s.stop = front.length + dots + 1 ∧
        s.rule.literal = List.replicate (takenDots dots) '.' ++ [' '] ∧
        (∀ t ∈ separators (dotRun front dots after), ∀ pos, front.length ≤ pos →
          pos ≤ front.length + dots → t.Covers pos → t = s) ∧
        ∀ pos, front.length ≤ pos → pos < front.length + (dots - takenDots dots) →
          Uncovered (separators (dotRun front dots after)) pos := by
  refine ⟨fun line pos => ⟨fun s => separatorAt_eq_longest_iff, ?_, separatorAt_eq_none_iff⟩, ?_⟩
  · intro s here
    obtain rfl := (separatorAt_eq_some_iff.mp here).1
    exact (separatorAt_covers here).2.1
  · intro front dots after three other
    obtain ⟨s, member, start, stop, literal, only⟩ := dotRun_separator after three other
    refine ⟨s, member, start, stop, literal, only, ?_⟩
    intro pos past surplus t member' within
    obtain rfl := only t member' pos past (by omega) within
    exact Nat.not_lt_of_le within.1 (by omega)

/-- The seventh dot from the right stays with the chord. -/
example : (separators (dotRun "a".toList 7 "b".toList)).map (fun s => (s.start, s.stop)) =
    [(2, 9)] := by
  decide

end KeySheet.Sheet
