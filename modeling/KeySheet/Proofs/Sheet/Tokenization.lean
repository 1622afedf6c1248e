import KeySheet.Sheet.Separator

/-! The separators of a line. Wherever two rules apply, the first has the longer literal; and the
separators that a line is read into are the only ones that are those of their places and leave
no separator out. -/
namespace KeySheet.Sheet

/-- What a guard asks: `before` is the character in front of the literal, `after` the text behind
it. -/
def Guard.Allows (before : Option Char) (after : List Char) : Guard → Prop
  | .anywhere => True
  | .beforeSpaceOrEnd => after = [] ∨ after.head? = some ' '
  | .notAfterSpace => before ≠ some ' '

/-- The separator takes in this offset. -/
def Separator.Covers (s : Separator) (pos : Nat) : Prop := s.start ≤ pos ∧ pos < s.stop

/-- No separator takes in this offset. -/
def Uncovered (seps : List Separator) (pos : Nat) : Prop := ∀ s ∈ seps, ¬ s.Covers pos

/-- What a line is cut into: separators one behind the other, each the one of its place and spelled
there, and none at an offset that is left to the chords. -/
structure Tokenizes (line : List Char) (seps : List Separator) : Prop where
  nonempty : ∀ s ∈ seps, s.start < s.stop
  increasing : seps.Pairwise (fun s t => s.start < t.start)
  disjoint : seps.Pairwise (fun s t => ∀ pos, ¬ (s.Covers pos ∧ t.Covers pos))
  inside : ∀ s ∈ seps, s.stop ≤ line.length
  read : ∀ s ∈ seps, separatorAt line s.start = some s
  spelled : ∀ s ∈ seps, (line.take s.stop).drop s.start = s.rule.literal
  complete : ∀ pos, Uncovered seps pos → separatorAt line pos = none

/-! ## The rules -/

theorem applies_iff (r : Rule) (before : Option Char) (rest : List Char) :
    r.applies before rest = true ↔
      ∃ after, rest = r.literal ++ after ∧ r.guard.Allows before after := by
  unfold Rule.applies
  cases cut : Text.stripHead r.literal rest with
  | none =>
      constructor
      · intro h
        cases h
      · rintro ⟨after, same, -⟩
        rw [Text.stripHead_eq_some_iff.mpr same] at cut
        cases cut
  | some after =>
      have split := Text.stripHead_eq_some_iff.mp cut
      have only : ∀ other, rest = r.literal ++ other ↔ after = other := by
        intro other
        rw [split, List.append_cancel_left_eq]
      have end_iff : after.head? = none ↔ after = [] := List.head?_eq_none_iff
      cases guard : r.guard <;> simp [only, Guard.Allows, end_iff]

/-- A literal stands before every literal that begins it. -/
theorem longer_first : rules.Pairwise (fun r later => ¬ r.literal <+: later.literal) := by decide

theorem ruleFor_applies {before : Option Char} {rest : List Char} {r : Rule}
    (h : ruleFor before rest = some r) :
    r ∈ rules ∧ ∃ after, rest = r.literal ++ after ∧ r.guard.Allows before after :=
  have applies : r.applies before rest = true :=
    List.find?_some (p := fun r => Rule.applies r before rest) h
  ⟨List.mem_of_find?_eq_some h, (applies_iff r before rest).mp applies⟩

theorem ruleFor_none {before : Option Char} {rest : List Char} (h : ruleFor before rest = none)
    {r : Rule} (member : r ∈ rules) {after : List Char} (split : rest = r.literal ++ after) :
    ¬ r.guard.Allows before after := by
  intro allowed
  exact List.find?_eq_none.mp h r member ((applies_iff r before rest).mpr ⟨after, split, allowed⟩)

/-- The rule that is taken is longer than any other that applies. -/
theorem ruleFor_longest {before : Option Char} {rest : List Char} {r other : Rule}
    (h : ruleFor before rest = some r) (member : other ∈ rules)
    (applies : other.applies before rest = true) :
    other = r ∨ other.literal.length < r.literal.length := by
  obtain ⟨here, early, late, order, passed⟩ := List.find?_eq_some_iff_append.mp h
  have pairs := longer_first
  rw [order] at member pairs
  rcases List.mem_append.mp member with before' | behind
  · have refused := passed other before'
    rw [applies] at refused
    cases refused
  · rcases List.mem_cons.mp behind with same | behind
    · exact .inl same
    · -- Both literals begin the rest, so the later one, which does not begin with the first, is cut
      -- short of it.
      right
      obtain ⟨after, split, -⟩ := (applies_iff r before rest).mp here
      obtain ⟨after', split', -⟩ := (applies_iff other before rest).mp applies
      have first : r.literal <+: rest := ⟨after, split.symm⟩
      have second : other.literal <+: rest := ⟨after', split'.symm⟩
      have apart : ¬ r.literal <+: other.literal :=
        (List.pairwise_cons.mp (List.pairwise_append.mp pairs).2.1).1 other behind
      refine Nat.lt_of_not_le fun short => apart ?_
      exact List.prefix_of_prefix_length_le first second short

/-! ## The separator of a place -/

theorem separatorAt_eq (line : List Char) (pos : Nat) :
    separatorAt line pos =
      (ruleFor (line.take pos).getLast? (line.drop pos)).map (fun r => ⟨pos, r⟩) := by
  rcases Nat.lt_or_ge pos line.length with inside | past
  · have before : (line.take pos).getLast? =
        if pos = 0 then none else (line.drop (pos - 1)).head? := by
      rw [List.getLast?_take, List.head?_drop, List.getElem?_eq_getElem (by omega), Option.some_or]
    rw [before]
    rfl
  · simp [separatorAt, List.drop_of_length_le past, ruleFor_nil]

theorem separatorAt_append (front rest : List Char) :
    separatorAt (front ++ rest) front.length =
      (ruleFor front.getLast? rest).map (fun r => ⟨front.length, r⟩) := by
  rw [separatorAt_eq, List.take_left, List.drop_left]

/-- A separator of a place starts there, by the rule for what stands there. -/
theorem separatorAt_eq_some_iff {line : List Char} {pos : Nat} {s : Separator} :
    separatorAt line pos = some s ↔
      s.start = pos ∧ ruleFor (line.take pos).getLast? (line.drop pos) = some s.rule := by
  rw [separatorAt_eq, Option.map_eq_some_iff]
  constructor
  · rintro ⟨r, found, rfl⟩
    exact ⟨rfl, found⟩
  · rintro ⟨rfl, found⟩
    exact ⟨s.rule, found, rfl⟩

theorem drop_of_getElem? {cs : List Char} {pos : Nat} {c : Char} (h : cs[pos]? = some c) :
    cs.drop pos = c :: cs.drop (pos + 1) := by
  obtain ⟨inside, rfl⟩ := List.getElem?_eq_some_iff.mp h
  exact List.drop_eq_getElem_cons inside

theorem separatorAt_none {line : List Char} {pos : Nat} (h : separatorAt line pos = none)
    {r : Rule} (member : r ∈ rules) {after : List Char}
    (split : line.drop pos = r.literal ++ after) :
    ¬ r.guard.Allows (line.take pos).getLast? after := by
  rw [separatorAt_eq, Option.map_eq_none_iff] at h
  exact ruleFor_none h member split

/-- A space is a separator if it is nothing more. -/
theorem separatorAt_space {cs : List Char} {pos : Nat} (space : cs[pos]? = some ' ') :
    separatorAt cs pos ≠ none := by
  intro h
  have single : (⟨[' '], .eighth, .anywhere⟩ : Rule) ∈ rules := by decide
  exact separatorAt_none h single (drop_of_getElem? space) trivial

/-- Only behind a space is a dash no separator. -/
theorem separatorAt_dash {cs : List Char} {pos : Nat} (dash : cs[pos]? = some '-')
    (h : separatorAt cs pos = none) : ∃ front, pos = front + 1 ∧ cs[front]? = some ' ' := by
  have single : (⟨['-'], .sixteenth, .notAfterSpace⟩ : Rule) ∈ rules := by decide
  have refused := separatorAt_none h single (drop_of_getElem? dash)
  have before : (cs.take pos).getLast? = some ' ' := Decidable.not_not.mp refused
  cases pos with
  | zero => simp at before
  | succ front =>
      refine ⟨front, rfl, ?_⟩
      have inside : front + 1 < cs.length := (List.getElem?_eq_some_iff.mp dash).1
      rw [List.getLast?_take, Nat.add_sub_cancel, List.getElem?_eq_getElem (by omega)] at before
      rw [List.getElem?_eq_getElem (by omega)]
      simpa using before

/-- The separator of a place takes in what its rule spells, within the line. -/
theorem separatorAt_covers {line : List Char} {s : Separator}
    (h : separatorAt line s.start = some s) :
    s.start < s.stop ∧ s.stop ≤ line.length ∧ (line.take s.stop).drop s.start = s.rule.literal := by
  obtain ⟨member, after, split, -⟩ := ruleFor_applies (separatorAt_eq_some_iff.mp h).2
  have filled : 0 < s.rule.literal.length := List.length_pos_iff.mpr (literal_ne_nil _ member)
  have lengths := congrArg List.length split
  rw [List.length_drop, List.length_append] at lengths
  have stop : s.stop = s.start + s.rule.literal.length := rfl
  refine ⟨by omega, by omega, ?_⟩
  rw [List.drop_take, split, stop, Nat.add_sub_cancel_left, List.take_left]

/-- Three dots alone end the line: with a space behind, the four of them are longer. -/
theorem bare_dots_last {line : List Char} {s : Separator} (h : separatorAt line s.start = some s)
    (dots : s.rule.literal = ['.', '.', '.']) : s.stop = line.length := by
  have found := (separatorAt_eq_some_iff.mp h).2
  obtain ⟨member, after, split, allowed⟩ := ruleFor_applies found
  have bare : s.rule.guard = .beforeSpaceOrEnd := by
    have only : ∀ r ∈ rules, r.literal = ['.', '.', '.'] → r.guard = .beforeSpaceOrEnd := by decide
    exact only _ member dots
  have lengths := congrArg List.length split
  rw [List.length_drop, List.length_append] at lengths
  have stop : s.stop = s.start + s.rule.literal.length := rfl
  rw [bare] at allowed
  rcases allowed with rfl | space
  · have := (separatorAt_covers h).2.1
    rw [List.length_nil] at lengths
    omega
  · exfalso
    have spaced : (⟨['.', '.', '.', ' '], .whole, .anywhere⟩ : Rule) ∈ rules := by decide
    obtain ⟨rest, rfl⟩ := List.head?_eq_some_iff.mp space
    have longer := ruleFor_longest found spaced
      ((applies_iff _ _ _).mpr ⟨rest, by rw [split, dots]; rfl, trivial⟩)
    rcases longer with same | shorter
    · rw [← same] at dots
      cases dots
    · rw [dots] at shorter
      exact absurd shorter (by decide)

/-! ## The scan -/

/-- What the scan has read from an offset on. -/
structure ReadsFrom (line : List Char) (pos : Nat) (seps : List Separator) : Prop where
  behind : ∀ s ∈ seps, pos ≤ s.start
  ordered : seps.Pairwise (fun s t => s.stop ≤ t.start)
  read : ∀ s ∈ seps, separatorAt line s.start = some s
  complete : ∀ p, pos ≤ p → Uncovered seps p → separatorAt line p = none

theorem ReadsFrom.skip {line : List Char} {pos : Nat} {seps : List Separator}
    (none_here : separatorAt line pos = none) (h : ReadsFrom line (pos + 1) seps) :
    ReadsFrom line pos seps := by
  refine ⟨fun s member => Nat.le_of_succ_le (h.behind s member), h.ordered, h.read, ?_⟩
  intro p from_pos uncovered
  rcases Nat.eq_or_lt_of_le from_pos with rfl | later
  · exact none_here
  · exact h.complete p later uncovered

theorem ReadsFrom.take {line : List Char} {s : Separator} {seps : List Separator}
    (here : separatorAt line s.start = some s) (h : ReadsFrom line s.stop seps) :
    ReadsFrom line s.start (s :: seps) := by
  have width := (separatorAt_covers here).1
  refine ⟨?_, List.pairwise_cons.mpr ⟨h.behind, h.ordered⟩, ?_, ?_⟩
  · intro t member
    rcases List.mem_cons.mp member with rfl | later
    · exact Nat.le_refl _
    · exact Nat.le_trans (Nat.le_of_lt width) (h.behind t later)
  · intro t member
    rcases List.mem_cons.mp member with rfl | later
    · exact here
    · exact h.read t later
  · intro p from_start uncovered
    rw [Uncovered, List.forall_mem_cons] at uncovered
    have past : s.stop ≤ p := Nat.le_of_not_lt fun within => uncovered.1 ⟨from_start, within⟩
    exact h.complete p past uncovered.2

theorem ReadsFrom.tail {line : List Char} {pos : Nat} {s : Separator} {seps : List Separator}
    (h : ReadsFrom line pos (s :: seps)) : ReadsFrom line s.stop seps := by
  obtain ⟨behind, ordered⟩ := List.pairwise_cons.mp h.ordered
  refine ⟨behind, ordered, fun t member => h.read t (List.mem_cons_of_mem _ member), ?_⟩
  intro p past uncovered
  have width := (separatorAt_covers (h.read s List.mem_cons_self)).1
  refine h.complete p ?_ (List.forall_mem_cons.mpr ⟨fun within => ?_, uncovered⟩)
  · have := h.behind s List.mem_cons_self
    omega
  · exact Nat.not_lt_of_le past within.2

/-- Wherever the line has a separator, what is read takes in the place. -/
theorem ReadsFrom.meets {line : List Char} {pos : Nat} {seps : List Separator} {t : Separator}
    (h : ReadsFrom line pos seps) (past : pos ≤ t.start)
    (here : separatorAt line t.start = some t) : ∃ s ∈ seps, s.Covers t.start := by
  refine Classical.byContradiction fun missed => ?_
  have nothing := h.complete t.start past fun s member within => missed ⟨s, member, within⟩
  rw [here] at nothing
  cases nothing

theorem ReadsFrom.first_le {line : List Char} {pos : Nat} {s t : Separator}
    {seps others : List Separator} (h : ReadsFrom line pos (s :: seps))
    (h' : ReadsFrom line pos (t :: others)) : s.start ≤ t.start := by
  obtain ⟨u, member, within⟩ :=
    h.meets (h'.behind t List.mem_cons_self) (h'.read t List.mem_cons_self)
  have first : ReadsFrom line s.start (s :: seps) := h.tail.take (h.read s List.mem_cons_self)
  exact Nat.le_trans (first.behind u member) within.1

/-- A line is read in one way. -/
theorem ReadsFrom.unique {line : List Char} {pos : Nat} {seps others : List Separator}
    (h : ReadsFrom line pos seps) (h' : ReadsFrom line pos others) : seps = others := by
  induction seps generalizing pos others with
  | nil =>
      cases others with
      | nil => rfl
      | cons t others =>
          obtain ⟨s, member, -⟩ :=
            h.meets (h'.behind t List.mem_cons_self) (h'.read t List.mem_cons_self)
          cases member
  | cons s seps ih =>
      cases others with
      | nil =>
          obtain ⟨t, member, -⟩ :=
            h'.meets (h.behind s List.mem_cons_self) (h.read s List.mem_cons_self)
          cases member
      | cons t others =>
          have start : s.start = t.start := Nat.le_antisymm (h.first_le h') (h'.first_le h)
          have same : s = t := by
            have here := h.read s List.mem_cons_self
            rw [start, h'.read t List.mem_cons_self] at here
            exact (Option.some.inj here).symm
          subst same
          rw [ih h.tail h'.tail]

/-- Of the rest of a line, the scan passes over what is owed and reads all behind it. -/
theorem scanFrom_reads (front rest : List Char) (owed : Nat) (fits : owed ≤ rest.length) :
    ReadsFrom (front ++ rest) (front.length + owed)
      (scanFrom owed front.length front.getLast? rest) := by
  induction rest generalizing front owed with
  | nil =>
      refine ⟨by nofun, .nil, by nofun, ?_⟩
      intro p past _
      have empty : (front ++ []).drop p = [] := List.drop_of_length_le (by simp; omega)
      rw [separatorAt_eq, empty, ruleFor_nil]
      rfl
  | cons c cs ih =>
      -- Whatever is owed behind the first character, the scan reads on from there.
      have later (k : Nat) (room : k ≤ cs.length) :
          ReadsFrom (front ++ c :: cs) (front.length + 1 + k)
            (scanFrom k (front.length + 1) (some c) cs) := by
        have := ih (front ++ [c]) k room
        rwa [List.append_assoc, List.singleton_append, List.length_append, List.length_singleton,
          List.getLast?_concat] at this
      cases owed with
      | succ k =>
          rw [show front.length + (k + 1) = front.length + 1 + k by omega]
          exact later k (Nat.le_of_succ_le_succ fits)
      | zero =>
          have place := separatorAt_append front (c :: cs)
          rw [scanFrom, Nat.add_zero]
          cases found : ruleFor front.getLast? (c :: cs) with
          | none =>
              rw [found] at place
              exact .skip place (later 0 (Nat.zero_le _))
          | some r =>
              rw [found] at place
              obtain ⟨width, inside, -⟩ := separatorAt_covers (s := ⟨front.length, r⟩) place
              have stop : (⟨front.length, r⟩ : Separator).stop =
                  front.length + 1 + (r.literal.length - 1) := by
                have : (⟨front.length, r⟩ : Separator).stop = front.length + r.literal.length := rfl
                have : (⟨front.length, r⟩ : Separator).start = front.length := rfl
                omega
              refine .take (s := ⟨front.length, r⟩) place ?_
              rw [stop, List.length_append, List.length_cons] at inside
              rw [stop]
              exact later _ (by omega)

theorem separators_read (line : List Char) : ReadsFrom line 0 (separators line) :=
  scanFrom_reads [] line 0 (Nat.zero_le _)

/-! ## The reading of a line -/

theorem Tokenizes.ordered {line : List Char} {seps : List Separator} (h : Tokenizes line seps) :
    seps.Pairwise (fun s t => s.stop ≤ t.start) := by
  refine (h.increasing.and h.disjoint).imp_of_mem ?_
  intro s t _ member ⟨early, apart⟩
  refine Nat.le_of_not_lt fun within => apart t.start ?_
  exact ⟨⟨Nat.le_of_lt early, within⟩, Nat.le_refl _, h.nonempty t member⟩

/-- To be cut as a line should be is to be read from its beginning. -/
theorem tokenizes_iff (line : List Char) (seps : List Separator) :
    Tokenizes line seps ↔ ReadsFrom line 0 seps := by
  constructor
  · intro h
    exact ⟨fun s _ => Nat.zero_le _, h.ordered, h.read, fun p _ => h.complete p⟩
  · intro h
    have covers (s : Separator) (member : s ∈ seps) := separatorAt_covers (h.read s member)
    refine ⟨fun s member => (covers s member).1, ?_, ?_, fun s member => (covers s member).2.1,
      h.read, fun s member => (covers s member).2.2, fun pos => h.complete pos (Nat.zero_le _)⟩
    · refine h.ordered.imp_of_mem fun member _ apart => ?_
      exact Nat.lt_of_lt_of_le (covers _ member).1 apart
    · refine h.ordered.imp fun apart pos within => ?_
      exact Nat.not_lt_of_le (Nat.le_trans apart within.2.1) within.1.2

/-- The separators of a line are its only tokenization. So no space is left to a chord, a dash only
behind a space, and three dots without a space are the last thing of a line. -/
theorem separators_tokenize (cs : List Char) :
    (∀ seps, Tokenizes cs seps ↔ seps = separators cs) ∧
    (∀ pos, cs[pos]? = some ' ' → ∃ s ∈ separators cs, s.Covers pos) ∧
    (∀ pos, cs[pos]? = some '-' → Uncovered (separators cs) pos →
      ∃ front, pos = front + 1 ∧ cs[front]? = some ' ') ∧
    ∀ s ∈ separators cs, s.rule.literal = "...".toList → s.stop = cs.length := by
  have reading := separators_read cs
  refine ⟨?_, ?_, ?_, ?_⟩
  · intro seps
    rw [tokenizes_iff]
    constructor
    · intro h
      exact h.unique reading
    · rintro rfl
      exact reading
  · intro pos space
    obtain ⟨s, here⟩ := Option.ne_none_iff_exists'.mp (separatorAt_space space)
    obtain rfl := (separatorAt_eq_some_iff.mp here).1
    exact reading.meets (Nat.zero_le _) here
  · intro pos dash uncovered
    exact separatorAt_dash dash (reading.complete pos (Nat.zero_le _) uncovered)
  · intro s member dots
    exact bare_dots_last (reading.read s member) dots

/-- Of five dots the first stays with the chord; the dash behind a space is the chord's too. -/
example : (separators "a..... b -c-d...".toList).map (fun s => (s.start, s.stop)) =
    [(2, 7), (8, 9), (11, 12), (13, 16)] := by
  decide

end KeySheet.Sheet
