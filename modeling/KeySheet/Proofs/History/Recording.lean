import KeySheet.Proofs.Desk.Cursors
import KeySheet.Proofs.Desk.Listing

/-! What a list keeps of the conversions that are recorded. It lets an entry fall out at each step,
and yet keeps the newest of all that were ever recorded: one that fell out had enough newer ones in
front of it, and recording one of these again moves it but makes no room. -/
namespace KeySheet.History

open Decimal (Binary64)
open Media (Entry)

/-- The entry has another timestamp. -/
def differs (timestamp : Binary64) (e : Entry) : Bool := !e.timestamp.same timestamp

/-- Recorded entries, the newest first, without those whose timestamp was recorded again. -/
def newest : List Entry → List Entry
  | [] => []
  | e :: later => newest later ++ if later.all (differs e.timestamp) then [e] else []

variable {h : History} {entries : List Entry}

theorem differs_comm (e e' : Entry) : differs e.timestamp e' = differs e'.timestamp e := by
  rw [differs, differs, Binary64.same_symm]

theorem distinct_cons {e : Entry} :
    Distinct (e :: entries) ↔ (∀ e' ∈ entries, differs e.timestamp e' = true) ∧ Distinct entries := by
  unfold Distinct
  rw [List.pairwise_cons]
  apply and_congr_left
  intro _
  simp only [differs, Binary64.same_symm, Bool.not_eq_true']

/-- In front of distinct entries, an entry puts itself in the place of the one with its timestamp. -/
theorem Distinct.cons_filter (distinct : Distinct entries) (e : Entry) :
    Distinct (e :: entries.filter (differs e.timestamp)) := by
  rw [distinct_cons]
  constructor
  · intro e' member
    exact (List.mem_filter.mp member).2
  · exact List.Pairwise.sublist List.filter_sublist distinct

/-- Of distinct entries, the first with a timestamp is the only one. -/
theorem Distinct.eraseP (distinct : Distinct entries) (timestamp : Binary64) :
    entries.eraseP (fun e => e.timestamp.same timestamp) = entries.filter (differs timestamp) := by
  induction entries with
  | nil => rfl
  | cons e rest ih =>
      obtain ⟨others, tail⟩ := distinct_cons.mp distinct
      cases same : e.timestamp.same timestamp with
      | false =>
          have other : differs timestamp e = true := by rw [differs, same]; rfl
          rw [List.filter_cons_of_pos other, ← ih tail]
          simp only [List.eraseP_cons, same, cond_false]
      | true =>
          have gone : ¬ differs timestamp e = true := by simp [differs, same]
          rw [List.filter_cons_of_neg gone]
          simp only [List.eraseP_cons, same, cond_true]
          refine (List.filter_eq_self.mpr ?_).symm
          intro e' member
          have apart := others e' member
          cases again : e'.timestamp.same timestamp with
          | false => rw [differs, again]; rfl
          | true =>
              rw [Binary64.same_symm] at same
              rw [differs, Binary64.same_trans again same] at apart
              cases apart

theorem record_entries (h : History) (entry : Entry) :
    (h.record entry).entries =
      (entry :: h.entries.eraseP (fun e => e.timestamp.same entry.timestamp)).take capacity := by
  rw [List.eraseP_eq_eraseIdx]
  unfold record position
  cases h.entries.findIdx? (fun e => e.timestamp.same entry.timestamp) <;> rfl

theorem remove_entries (h : History) (timestamp : Binary64) :
    (h.remove timestamp).1.entries =
      h.entries.eraseP (fun e => e.timestamp.same timestamp) := by
  rw [List.eraseP_eq_eraseIdx]
  unfold remove position
  cases h.entries.findIdx? (fun e => e.timestamp.same timestamp) with
  | none => rfl
  | some i => exact clamp_entries _

/-- What is cut off behind the first `n` entries is not missed when another one comes in front. -/
theorem take_cons_eraseP {α : Type} (p : α → Bool) (a : α) (n : Nat) (as : List α) :
    (a :: (as.take n).eraseP p).take n = (a :: as.eraseP p).take n := by
  cases n with
  | zero => rfl
  | succ m =>
      rw [List.take_succ_cons, List.take_succ_cons]
      congr 1
      induction as generalizing m with
      | nil => rfl
      | cons b bs ih =>
          rw [List.take_succ_cons, List.eraseP_cons, List.eraseP_cons]
          cases p b with
          | true => simp [List.take_take]
          | false =>
              cases m with
              | zero => rfl
              | succ k => exact congrArg (b :: ·) (ih k)

/-! ## The newest of all -/

theorem newest_concat (recorded : List Entry) (entry : Entry) :
    newest (recorded ++ [entry]) =
      entry :: (newest recorded).filter (differs entry.timestamp) := by
  induction recorded with
  | nil => rfl
  | cons e later ih =>
      rw [List.cons_append, newest, ih, newest, List.filter_append, List.cons_append]
      congr 2
      -- The older entry stays if neither a later one nor the new one has its timestamp.
      have single : [entry].all (differs e.timestamp) = differs entry.timestamp e := by
        rw [List.all_cons, List.all_nil, Bool.and_true, differs_comm]
      rw [List.all_append, single]
      cases later.all (differs e.timestamp) with
      | false => rfl
      | true => cases kept : differs entry.timestamp e <;> simp [kept]

theorem newest_distinct (recorded : List Entry) : Distinct (newest recorded) := by
  induction recorded using List.reverseRecOn with
  | nil => exact List.Pairwise.nil
  | append_singleton recorded entry ih =>
      rw [newest_concat]
      exact ih.cons_filter entry

theorem foldl_record_entries (recorded : List Entry) :
    (recorded.foldl record {}).entries = (newest recorded).take capacity := by
  induction recorded using List.reverseRecOn with
  | nil => rfl
  | append_singleton recorded entry ih =>
      rw [List.foldl_append]
      show ((recorded.foldl record {}).record entry).entries = _
      rw [record_entries, ih, take_cons_eraseP, (newest_distinct recorded).eraseP, newest_concat]

/-! ## One step -/

theorem filter_of_new {timestamp : Binary64} (new : h.position timestamp = none) :
    h.entries.filter (differs timestamp) = h.entries := by
  rw [position, List.findIdx?_eq_none_iff] at new
  rw [List.filter_eq_self]
  intro e member
  rw [differs, new e member]
  rfl

/-- An entry with the timestamp leaves its room to a new one. -/
theorem filter_lt_of_old {timestamp : Binary64} (old : h.position timestamp ≠ none) :
    (h.entries.filter (differs timestamp)).length < h.entries.length := by
  obtain ⟨i, found⟩ := Option.ne_none_iff_exists'.mp old
  obtain ⟨inside, same, -⟩ := List.findIdx?_eq_some_iff_getElem.mp found
  rw [List.length_filter_lt_length_iff_exists]
  refine ⟨h.entries[i], List.getElem_mem inside, ?_⟩
  rw [differs, same]
  decide

theorem Distinct.record_entries (distinct : Distinct h.entries) (entry : Entry) :
    (h.record entry).entries =
      (entry :: h.entries.filter (differs entry.timestamp)).take capacity := by
  rw [History.record_entries, distinct.eraseP]

theorem Distinct.record (distinct : Distinct h.entries) (entry : Entry) :
    Distinct (h.record entry).entries := by
  rw [distinct.record_entries]
  exact List.Pairwise.sublist (List.take_sublist _ _) (distinct.cons_filter entry)

/-- Only a new timestamp in a full list makes the last entry fall out. -/
theorem Distinct.record_within (distinct : Distinct h.entries) (room : h.entries.length ≤ capacity)
    (entry : Entry) :
    (h.record entry).entries = entry ::
      if h.position entry.timestamp = none ∧ h.entries.length = capacity then h.entries.dropLast
      else h.entries.filter (differs entry.timestamp) := by
  rw [distinct.record_entries]
  split
  · next full =>
      rw [filter_of_new full.1, List.dropLast_eq_take, full.2]
      rfl
  · next free =>
      apply List.take_of_length_le
      rw [List.length_cons, Nat.succ_le_iff]
      by_cases new : h.position entry.timestamp = none
      · rw [filter_of_new new]
        exact Nat.lt_of_le_of_ne room fun full => free ⟨new, full⟩
      · exact Nat.lt_of_lt_of_le (filter_lt_of_old new) room

/-- A list holds the newest of all conversions that were recorded in it. From one step to the next,
distinct timestamps stay distinct, and no entry is lost or moved but the one with the timestamp and,
when a new one comes into a full list, the last. No list grows beyond a full one. -/
theorem record_keeps_newest :
    (∀ recorded : List Entry,
      (recorded.foldl record {}).entries = (newest recorded).take capacity) ∧
    (∀ h : History, Distinct h.entries →
      (∀ timestamp, Distinct (h.remove timestamp).1.entries ∧
        (h.remove timestamp).1.entries = h.entries.filter (differs timestamp)) ∧
      ∀ entry, Distinct (h.record entry).entries ∧
        (h.entries.length ≤ capacity →
          (h.record entry).entries = entry ::
            if h.position entry.timestamp = none ∧ h.entries.length = capacity then
              h.entries.dropLast
            else h.entries.filter (differs entry.timestamp))) ∧
    ∀ rows operations, (run rows operations).entries.length ≤ capacity := by
  refine ⟨foldl_record_entries, ?_, fun rows operations => (run_inBounds rows operations).capacity⟩
  intro h distinct
  constructor
  · intro timestamp
    constructor
    · exact List.Pairwise.sublist (remove_sublist h timestamp) distinct
    · rw [remove_entries, distinct.eraseP]
  · intro entry
    constructor
    · exact distinct.record entry
    · intro room
      exact distinct.record_within room entry

/-- As many conversions as a list holds, each of its own time. -/
def shelf : History :=
  (List.range capacity).foldl (fun h n => h.record (.ofResult (.ofNat n) {})) {}

theorem record_on_full_shelf :
    Distinct shelf.entries ∧ shelf.entries.length = capacity ∧
      (shelf.record (.ofResult (.ofNat capacity) {})).entries =
        .ofResult (.ofNat capacity) {} :: shelf.entries.dropLast := by
  have distinct : Distinct shelf.entries := by unfold Distinct; decide +kernel
  have full : shelf.entries.length = capacity := by decide +kernel
  have new : shelf.position (.ofNat capacity) = none := by decide +kernel
  refine ⟨distinct, full, ?_⟩
  obtain ⟨-, onto⟩ := (record_keeps_newest.2.1 shelf distinct).2 (.ofResult (.ofNat capacity) {})
  rw [onto (Nat.le_of_eq full)]
  exact congrArg _ (if_pos ⟨new, full⟩)

end KeySheet.History
