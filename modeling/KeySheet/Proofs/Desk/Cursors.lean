import Mathlib.Data.List.Induction
import KeySheet.Screen.Dialogs
import KeySheet.Screen.HistoryPanel

/-! Where the highlight and the scroll of a list can stand. Every operation leaves the highlight on
an entry, if there is one, and the scroll not below it, whatever list comes and however many rows
are on the screen; so the rows that are drawn lie within the list. -/
namespace KeySheet

namespace History

structure InBounds (h : History) : Prop where
  selected : h.selected < h.entries.length ∨ h.entries = [] ∧ h.selected = 0 ∧ h.scroll = 0
  scroll : h.scroll ≤ h.selected
  capacity : h.entries.length ≤ capacity

variable {h : History}

theorem inBounds_empty : InBounds {} := ⟨.inr ⟨rfl, rfl, rfl⟩, Nat.le_refl 0, Nat.zero_le _⟩

theorem clamp_inBounds (kept : h.entries.length ≤ capacity) : h.clamp.InBounds := by
  unfold clamp
  split
  · exact inBounds_empty
  · next filled =>
      have any : 0 < h.entries.length := by
        rw [List.isEmpty_iff] at filled
        exact List.length_pos_iff.mpr filled
      refine ⟨.inl ?_, Nat.min_le_right _ _, kept⟩
      exact Nat.lt_of_le_of_lt (Nat.min_le_right _ _) (Nat.sub_lt any Nat.one_pos)

theorem replace_inBounds (h : History) (entries : List Media.Entry) :
    (h.replace entries).InBounds :=
  clamp_inBounds (List.length_take_le _ _)

theorem record_inBounds (h : History) (entry : Media.Entry) : (h.record entry).InBounds := by
  refine ⟨.inl ?_, Nat.le_refl 0, List.length_take_le _ _⟩
  show 0 < ((entry :: _).take capacity).length
  simp [capacity]

theorem InBounds.remove (bounds : h.InBounds) (timestamp : Decimal.Binary64) :
    (h.remove timestamp).1.InBounds := by
  unfold History.remove
  split
  · exact bounds
  · exact clamp_inBounds (Nat.le_trans (List.length_eraseIdx_le _ _) bounds.capacity)

theorem InBounds.selectPrev (bounds : h.InBounds) : h.selectPrev.InBounds := by
  unfold History.selectPrev
  split
  · exact bounds
  · next below =>
      refine ⟨.inl ?_, Nat.min_le_right _ _, bounds.capacity⟩
      have inside := bounds.selected.resolve_right fun empty => below empty.2.1
      exact Nat.lt_of_le_of_lt (Nat.sub_le _ _) inside

theorem InBounds.selectNext (bounds : h.InBounds) (rows : Nat) : (h.selectNext rows).InBounds := by
  unfold History.selectNext
  split
  · next inside =>
      refine ⟨.inl inside, ?_, bounds.capacity⟩
      dsimp only
      have scroll := bounds.scroll
      -- A panel without rows scrolls as one with a single row.
      split <;> omega
  · exact bounds

theorem InBounds.scroll_le (bounds : h.InBounds) : h.scroll ≤ h.entries.length := by
  rcases bounds.selected with inside | ⟨-, -, scroll⟩
  · exact Nat.le_trans bounds.scroll (Nat.le_of_lt inside)
  · exact scroll ▸ Nat.zero_le _

/-- What is done to a list. -/
inductive Operation where
  | replace (entries : List Media.Entry)
  | record (entry : Media.Entry)
  | remove (timestamp : Decimal.Binary64)
  | selectPrev
  | selectNext

/-- One operation, in a panel of so many rows. -/
def apply (rows : Nat) (h : History) : Operation → History
  | .replace entries => h.replace entries
  | .record entry => h.record entry
  | .remove timestamp => (h.remove timestamp).1
  | .selectPrev => h.selectPrev
  | .selectNext => h.selectNext rows

def run (rows : Nat) (operations : List Operation) : History := operations.foldl (apply rows) {}

theorem run_concat (rows : Nat) (operations : List Operation) (last : Operation) :
    run rows (operations ++ [last]) = (run rows operations).apply rows last := by
  unfold run
  rw [List.foldl_append]
  rfl

theorem InBounds.apply (bounds : h.InBounds) (rows : Nat) (operation : Operation) :
    (h.apply rows operation).InBounds := by
  cases operation with
  | replace entries => exact replace_inBounds h entries
  | record entry => exact record_inBounds h entry
  | remove timestamp => exact bounds.remove timestamp
  | selectPrev => exact bounds.selectPrev
  | selectNext => exact bounds.selectNext rows

theorem run_inBounds (rows : Nat) (operations : List Operation) : (run rows operations).InBounds := by
  induction operations using List.reverseRecOn with
  | nil => exact inBounds_empty
  | append_singleton operations last ih =>
      rw [run_concat]
      exact ih.apply rows last

end History

namespace Desk.Browser

structure InBounds (b : Browser) : Prop where
  selected : b.selected < b.entries.length ∨ b.entries = [] ∧ b.selected = 0
  above : b.scroll ≤ b.selected
  below : b.selected < b.scroll + pageRows

theorem pageRows_pos : 0 < pageRows := by decide

variable {b : Browser}

theorem inBounds_first (first : b.selected = 0) (top : b.scroll = 0) : b.InBounds := by
  refine ⟨?_, Nat.le_of_eq (top.trans first.symm), by rw [first, top]; exact pageRows_pos⟩
  rw [first]
  cases b.entries with
  | nil => exact .inr ⟨rfl, rfl⟩
  | cons => exact .inl (Nat.succ_pos _)

theorem enter_inBounds (b : Browser) (files : Files.Tree) (dir : List Char) :
    (b.enter files dir).InBounds :=
  -- The highlight is on the first entry, and so it is if that list has none.
  inBounds_first (ite_self 0) rfl

theorem InBounds.selectPrev (bounds : b.InBounds) : b.selectPrev.InBounds := by
  unfold Browser.selectPrev
  split
  · next held =>
      rw [Bool.and_eq_true, decide_eq_true_iff] at held
      have inside := bounds.selected.resolve_right fun empty => Nat.ne_of_gt held.2 empty.2
      have below := bounds.below
      have page := pageRows_pos
      refine ⟨.inl (Nat.lt_of_le_of_lt (Nat.sub_le _ _) inside), Nat.min_le_right _ _, ?_⟩
      dsimp only
      omega
  · exact bounds

theorem InBounds.selectNext (bounds : b.InBounds) : b.selectNext.InBounds := by
  unfold Browser.selectNext
  split
  · next held =>
      rw [Bool.and_eq_true, decide_eq_true_iff] at held
      have above := bounds.above
      have below := bounds.below
      have page := pageRows_pos
      refine ⟨.inl held.2, ?_, ?_⟩ <;> dsimp only <;> split <;> omega
  · exact bounds

theorem InBounds.choose (bounds : b.InBounds) (files : Files.Tree) :
    (b.choose files).1.InBounds := by
  fun_cases Browser.choose b files
  case case2 | case4 => exact enter_inBounds b files _
  case case5 => exact ⟨bounds.selected, bounds.above, bounds.below⟩
  all_goals exact bounds

theorem InBounds.scroll_le (bounds : b.InBounds) : b.scroll ≤ b.entries.length := by
  rcases bounds.selected with inside | ⟨-, first⟩
  · exact Nat.le_trans bounds.above (Nat.le_of_lt inside)
  · exact Nat.le_trans bounds.above (first ▸ Nat.zero_le _)

end Desk.Browser

namespace Screen

theorem historyLines_length (h : History) (rows : Nat) (focused : Bool) :
    (historyLines h rows focused).length =
      min (h.scroll + rows) h.entries.length - h.scroll := by
  simp only [historyLines, List.length_map, List.length_zipIdx, List.length_take, List.length_drop]
  omega

theorem browserLines_length (files : Files.Tree) (b : Desk.Browser) (rows : Nat) :
    (browserLines files b rows).length = min (b.scroll + rows) b.entries.length - b.scroll := by
  simp only [browserLines, List.length_map, List.length_zipIdx, List.length_take, List.length_drop]
  omega

end Screen

end KeySheet
