import KeySheet.Proofs.Desk.Cursors

/-! The highlighted entry on the screen. Moving up or down, recording and removing keep it among the
rows; a new list from the converter brings it back only from above. If the list has moved the
highlighted timestamp below the last row, it is out of sight, and stays there until something moves
it. -/
namespace KeySheet.History

open Media (Entry)

/-- The highlight is on one of the rows. -/
structure Shown (rows : Nat) (h : History) : Prop where
  above : h.scroll ≤ h.selected
  below : h.selected < h.scroll + rows

/-- Where a new list has the highlighted timestamp. -/
def placeIn (h : History) (entries : List Entry) : Option Nat :=
  h.current?.bind (fun e =>
    (entries.take capacity).findIdx? (fun e' => e'.timestamp.same e.timestamp))

variable {h : History} {rows : Nat}

theorem shown_top (room : 1 ≤ rows) (first : h.selected = 0) (top : h.scroll = 0) : h.Shown rows := by
  constructor
  · rw [top]
    exact Nat.zero_le _
  · rw [first, top, Nat.zero_add]
    exact room

theorem Shown.clamp (shown : h.Shown rows) (room : 1 ≤ rows) : h.clamp.Shown rows := by
  unfold History.clamp
  split
  · exact shown_top room rfl rfl
  · have below := shown.below
    constructor
    · exact Nat.min_le_right _ _
    · dsimp only
      omega

theorem Shown.remove (shown : h.Shown rows) (room : 1 ≤ rows) (timestamp : Decimal.Binary64) :
    (h.remove timestamp).1.Shown rows := by
  unfold History.remove
  split
  · exact shown
  · apply Shown.clamp
    · exact ⟨shown.above, shown.below⟩
    · exact room

theorem Shown.selectPrev (shown : h.Shown rows) (room : 1 ≤ rows) : h.selectPrev.Shown rows := by
  unfold History.selectPrev
  split
  · exact shown
  · have below := shown.below
    constructor
    · exact Nat.min_le_right _ _
    · dsimp only
      omega

theorem Shown.selectNext (shown : h.Shown rows) (room : 1 ≤ rows) :
    (h.selectNext rows).Shown rows := by
  have above := shown.above
  have below := shown.below
  unfold History.selectNext
  rw [Nat.max_eq_left room]
  split
  · dsimp only
    split
    · constructor <;> dsimp only <;> omega
    · constructor <;> dsimp only <;> omega
  · exact shown

/-! ## A new list -/

theorem placeIn_lt {entries : List Entry} {place : Nat} (found : h.placeIn entries = some place) :
    place < (entries.take capacity).length := by
  obtain ⟨e, -, found⟩ := Option.bind_eq_some_iff.mp found
  obtain ⟨inside, -⟩ := List.findIdx?_eq_some_iff_getElem.mp found
  exact inside

/-- A new list has the highlighted timestamp below the rows that are on the screen. -/
def MovesBelow (rows : Nat) (h : History) (entries : List Entry) : Prop :=
  ∃ place, h.placeIn entries = some place ∧ h.scroll + rows ≤ place

/-- A new list keeps the highlight on its timestamp, or puts it on the first entry. -/
theorem replace_eq (h : History) (entries : List Entry) :
    h.replace entries =
      ⟨entries.take capacity, (h.placeIn entries).getD 0,
        min h.scroll ((h.placeIn entries).getD 0)⟩ := by
  have kept : (h.placeIn entries).getD 0 ≤ (entries.take capacity).length - 1 := by
    cases found : h.placeIn entries with
    | none => exact Nat.zero_le _
    | some place => exact Nat.le_sub_one_of_lt (placeIn_lt found)
  show History.clamp ⟨entries.take capacity, (h.placeIn entries).getD 0, h.scroll⟩ = _
  unfold clamp
  split
  · next none =>
      have empty : entries.take capacity = [] := List.isEmpty_iff.mp none
      rw [empty, List.length_nil] at kept
      rw [Nat.le_zero.mp kept, Nat.min_zero, empty]
  · dsimp only
    rw [Nat.min_eq_left kept]

theorem replace_shown_iff (room : 1 ≤ rows) (h : History) (entries : List Entry) :
    (h.replace entries).Shown rows ↔ ¬ h.MovesBelow rows entries := by
  rw [replace_eq]
  constructor
  · rintro ⟨-, below⟩ ⟨place, found, far⟩
    rw [found] at below
    dsimp only [Option.getD_some] at below
    omega
  · intro near
    constructor
    · exact Nat.min_le_right _ _
    · cases found : h.placeIn entries with
      | none =>
          dsimp only [Option.getD_none]
          omega
      | some place =>
          have inside : ¬ h.scroll + rows ≤ place := fun far => near ⟨place, found, far⟩
          dsimp only [Option.getD_some]
          omega

/-! ## Whole runs -/

theorem Shown.apply (shown : h.Shown rows) (room : 1 ≤ rows) (operation : Operation)
    (kept : ∀ entries, operation = .replace entries → ¬ h.MovesBelow rows entries) :
    (h.apply rows operation).Shown rows := by
  cases operation with
  | replace entries => exact (replace_shown_iff room h entries).mpr (kept entries rfl)
  | record entry => exact shown_top room rfl rfl
  | remove timestamp => exact shown.remove room timestamp
  | selectPrev => exact shown.selectPrev room
  | selectNext => exact shown.selectNext room

/-- The highlight was last seen before a list that moved it below the rows. -/
structure LostBy (rows : Nat) (operations earlier : List Operation) (entries : List Entry)
    (later : List Operation) : Prop where
  at_list : operations = earlier ++ .replace entries :: later
  before : (run rows earlier).Shown rows
  moved : (run rows earlier).MovesBelow rows entries
  since : ∀ seen, seen <+: later → ¬ (run rows (earlier ++ .replace entries :: seen)).Shown rows

theorem shown_or_lost (room : 1 ≤ rows) (operations : List Operation) :
    (run rows operations).Shown rows ∨
      ∃ earlier entries later, LostBy rows operations earlier entries later := by
  induction operations using List.reverseRecOn with
  | nil => exact .inl (shown_top room rfl rfl)
  | append_singleton operations last ih =>
      by_cases now : (run rows (operations ++ [last])).Shown rows
      · exact .inl now
      · right
        rcases ih with shown | ⟨earlier, entries, later, lost⟩
        · -- The last operation is the list that moves it.
          have moves : ∃ entries, last = .replace entries ∧
              (run rows operations).MovesBelow rows entries := by
            by_contra none
            apply now
            rw [run_concat]
            apply shown.apply room
            intro entries replaces moved
            exact none ⟨entries, replaces, moved⟩
          obtain ⟨entries, rfl, moved⟩ := moves
          refine ⟨operations, entries, [], rfl, shown, moved, ?_⟩
          intro seen ahead
          rw [List.prefix_nil.mp ahead]
          exact now
        · refine ⟨earlier, entries, later ++ [last], ?_, lost.before, lost.moved, ?_⟩
          · rw [lost.at_list, List.append_assoc]
            rfl
          · intro seen ahead
            rcases List.prefix_concat_iff.mp ahead with rfl | ahead
            · rw [lost.at_list, List.append_assoc] at now
              exact now
            · exact lost.since seen ahead

/-- The highlight is never above the rows, and it is below them only since a list moved it there:
no other operation takes it from the screen, and a list does so exactly if it has the highlighted
timestamp further down than the rows reach. -/
theorem highlight_lost_only_by_list (rows : Nat) (room : 1 ≤ rows) (operations : List Operation) :
    (run rows operations).scroll ≤ (run rows operations).selected ∧
      ((run rows operations).selected < (run rows operations).scroll + rows ∨
        ∃ earlier entries later, LostBy rows operations earlier entries later) ∧
      ∀ entries, ((run rows operations).replace entries).Shown rows ↔
        ¬ (run rows operations).MovesBelow rows entries := by
  refine ⟨(run_inBounds rows operations).scroll, ?_, replace_shown_iff room _⟩
  rcases shown_or_lost room operations with shown | lost
  · exact .inl shown.below
  · exact .inr lost

/-- The converter's entry of that time. -/
def listed (n : Nat) : Entry := .ofResult (.ofNat n) {}

/-- The highlight moves to the second of two entries, and two newer ones come in front of them. -/
def overtaken : List Operation :=
  [.replace [listed 3, listed 2], .selectNext, .replace [listed 5, listed 4, listed 3, listed 2]]

theorem overtaken_highlight_hidden :
    (run 2 overtaken).entries ≠ [] ∧ (run 2 overtaken).selected = 3 ∧
      (run 2 overtaken).scroll = 0 ∧ ¬ (run 2 overtaken).Shown 2 := by
  have selected : (run 2 overtaken).selected = 3 := by decide +kernel
  have scroll : (run 2 overtaken).scroll = 0 := by decide +kernel
  refine ⟨?_, selected, scroll, ?_⟩
  · intro none
    have four : (run 2 overtaken).entries.length = 4 := by decide +kernel
    rw [none] at four
    cases four
  · rintro ⟨-, below⟩
    rw [selected, scroll] at below
    exact absurd below (by decide)

theorem overtaken_highlight_lost_by_list :
    1 ≤ 2 ∧ ∃ earlier entries later, LostBy 2 overtaken earlier entries later := by
  have room : 1 ≤ 2 := by decide
  obtain ⟨-, seen | lost, -⟩ := highlight_lost_only_by_list 2 room overtaken
  · exact absurd seen (by decide +kernel)
  · exact ⟨room, lost⟩

end KeySheet.History
