import KeySheet.Proofs.Desk.Listing
import KeySheet.Proofs.Desk.Overlays
import KeySheet.Proofs.History.Window

/-! Which conversion the highlight is on while answers come between two keys. A list from the
converter is looked through for the highlighted timestamp. A deletion only keeps the place of the
highlight: if it takes an entry from above, and there is another one below, the highlight is on that
one afterwards. -/
namespace KeySheet

open Backend (Answer)
open Decimal (Binary64)
open Media (Entry)

namespace History

/-- The highlight is on a conversion of that time. -/
def Highlights (h : History) (timestamp : Binary64) : Prop :=
  ∃ e, h.current? = some e ∧ e.timestamp.same timestamp = true

/-- The timestamp stands above the highlight, and another entry below it. -/
def Slips (h : History) (timestamp : Binary64) : Prop :=
  ∃ place, h.position timestamp = some place ∧ place < h.selected ∧
    h.selected + 1 < h.entries.length

/-- The list after an answer that ends no conversion. -/
def afterAnswer (h : History) : Answer → History
  | .history (.ok entries) => h.replace entries
  | .historyDeleted timestamp (.ok _) => (h.remove timestamp).1
  | _ => h

/-- A list still has the timestamp among the entries that are kept, and a deletion is of another one
and does not let the highlight slip. -/
def Spares (h : History) (timestamp : Binary64) : Answer → Prop
  | .history (.ok entries) => ∃ e ∈ entries.take capacity, e.timestamp.same timestamp = true
  | .historyDeleted other (.ok _) => timestamp.same other = false ∧ ¬ h.Slips other
  | _ => True

variable {h : History} {e : Entry} {timestamp : Binary64}

theorem Highlights.other (on : h.Highlights timestamp) {other : Binary64}
    (differs : timestamp.same other = false) :
    ∃ e, h.current? = some e ∧ e.timestamp.same timestamp = true ∧
      e.timestamp.same other = false := by
  obtain ⟨e, chosen, same⟩ := on
  refine ⟨e, chosen, same, Bool.eq_false_iff.mpr ?_⟩
  intro both
  rw [Binary64.same_symm] at same
  rw [Binary64.same_trans same both] at differs
  cases differs

theorem clamp_current? (h : History) :
    h.clamp.current? = h.entries[min h.selected (h.entries.length - 1)]? := by
  unfold clamp
  split
  · next none =>
      rw [List.isEmpty_iff.mp none]
      rfl
  · rfl

/-! ## A deletion -/

theorem remove_current? {place : Nat} (found : h.position timestamp = some place) :
    (h.remove timestamp).1.current? =
      (h.entries.eraseIdx place)[min h.selected ((h.entries.eraseIdx place).length - 1)]? := by
  unfold remove
  rw [found]
  exact clamp_current? _

theorem position_ne_selected (chosen : h.current? = some e)
    (differs : e.timestamp.same timestamp = false) : h.position timestamp ≠ some h.selected := by
  intro here
  obtain ⟨inside, same, -⟩ := List.findIdx?_eq_some_iff_getElem.mp here
  obtain ⟨_, rfl⟩ := List.getElem?_eq_some_iff.mp chosen
  exact absurd same (Bool.eq_false_iff.mp differs)

theorem remove_slips (slips : h.Slips timestamp) :
    (h.remove timestamp).1.current? = h.entries[h.selected + 1]? := by
  obtain ⟨place, found, above, below⟩ := slips
  have shorter : (h.entries.eraseIdx place).length = h.entries.length - 1 :=
    List.length_eraseIdx_of_lt (by omega)
  have inside : min h.selected ((h.entries.eraseIdx place).length - 1) = h.selected := by omega
  rw [remove_current? found, inside, List.getElem?_eraseIdx, if_neg (by omega)]

theorem remove_stays (chosen : h.current? = some e) (differs : e.timestamp.same timestamp = false)
    (stays : ¬ h.Slips timestamp) : (h.remove timestamp).1.current? = some e := by
  have inside : h.selected < h.entries.length := (List.getElem?_eq_some_iff.mp chosen).1
  cases found : h.position timestamp with
  | none =>
      unfold remove
      rw [found]
      exact chosen
  | some place =>
      have held : place < h.entries.length := (List.findIdx?_eq_some_iff_getElem.mp found).1
      have shorter := List.length_eraseIdx_of_lt held
      have elsewhere : place ≠ h.selected := by
        rintro rfl
        exact position_ne_selected chosen differs found
      rw [remove_current? found, List.getElem?_eraseIdx]
      by_cases above : place < h.selected
      · -- The highlight was on the last entry, and goes up with it.
        have last : h.entries.length ≤ h.selected + 1 := by
          by_contra more
          exact stays ⟨place, found, above, Nat.lt_of_not_le more⟩
        have moved : min h.selected ((h.entries.eraseIdx place).length - 1) + 1 = h.selected := by
          omega
        rw [if_neg (by omega), moved]
        exact chosen
      · have kept : min h.selected ((h.entries.eraseIdx place).length - 1) = h.selected := by omega
        rw [kept, if_pos (by omega)]
        exact chosen

theorem slipped_differs (distinct : Distinct h.entries) (chosen : h.current? = some e)
    (slips : h.Slips timestamp) : ¬ (h.remove timestamp).1.Highlights e.timestamp := by
  have following := remove_slips slips
  obtain ⟨place, -, -, below⟩ := slips
  obtain ⟨inside, here⟩ := List.getElem?_eq_some_iff.mp chosen
  rintro ⟨e', now, same⟩
  rw [following, List.getElem?_eq_getElem below] at now
  have apart := distinct.apart below inside (Nat.succ_ne_self _)
  rw [Option.some.inj now, here, same] at apart
  cases apart

/-! ## A list from the converter -/

theorem replace_current? (h : History) (entries : List Entry) :
    (h.replace entries).current? = (entries.take capacity)[(h.placeIn entries).getD 0]? := by
  rw [replace_eq]
  rfl

theorem replace_highlights_iff (chosen : h.current? = some e) (entries : List Entry) :
    (h.replace entries).Highlights e.timestamp ↔
      ∃ e' ∈ entries.take capacity, e'.timestamp.same e.timestamp = true := by
  constructor
  · rintro ⟨e', now, same⟩
    rw [replace_current?] at now
    exact ⟨e', List.mem_of_getElem? now, same⟩
  · rintro ⟨e', member, same⟩
    have placed : h.placeIn entries =
        (entries.take capacity).findIdx? (fun e' => e'.timestamp.same e.timestamp) := by
      unfold placeIn
      rw [chosen]
      rfl
    cases found : h.placeIn entries with
    | none =>
        rw [placed, List.findIdx?_eq_none_iff] at found
        rw [found e' member] at same
        cases same
    | some place =>
        have there := found
        rw [placed] at there
        obtain ⟨inside, again, -⟩ := List.findIdx?_eq_some_iff_getElem.mp there
        refine ⟨(entries.take capacity)[place], ?_, again⟩
        rw [replace_current?, found]
        exact List.getElem?_eq_getElem inside

theorem Highlights.afterAnswer (on : h.Highlights timestamp) {answer : Answer}
    (spared : h.Spares timestamp answer) : (h.afterAnswer answer).Highlights timestamp := by
  have trans {h' : History} {e : Entry} (same : e.timestamp.same timestamp = true)
      (on : h'.Highlights e.timestamp) : h'.Highlights timestamp := by
    obtain ⟨e', now, same'⟩ := on
    exact ⟨e', now, Binary64.same_trans same' same⟩
  unfold History.afterAnswer
  split
  · next entries =>
      obtain ⟨e, chosen, same⟩ := on
      obtain ⟨e', member, same'⟩ := spared
      apply trans same
      rw [replace_highlights_iff chosen]
      rw [Binary64.same_symm] at same
      exact ⟨e', member, Binary64.same_trans same' same⟩
  · next deleted done =>
      obtain ⟨differs, stays⟩ := spared
      obtain ⟨e, chosen, same, apart⟩ := on.other differs
      exact ⟨e, remove_stays chosen apart stays, same⟩
  · exact on

end History

namespace Desk

/-- Answers in order, each of which spares the highlighted timestamp as it is taken up, and none of
which ends a conversion. -/
inductive Spared (t : Moment) (timestamp : Binary64) : Desk → List Answer → Prop
  | nil {d} : Spared t timestamp d []
  | cons {d answer rest} : d.stamped t answer.event? = [] →
      d.history.Spares timestamp answer →
      Spared t timestamp ({ d with mail := d.mail.taken }.receive t answer) rest →
      Spared t timestamp d (answer :: rest)

variable {d : Desk} {t : Moment} {e : Entry} {timestamp : Binary64}

theorem dispatch_history {event : Conversion.Event} (goesOn : d.stamped t (some event) = []) :
    (d.dispatch t event).history = d.history := by
  rw [stamped, Option.bind_some] at goesOn
  unfold dispatch
  generalize d.controller.step t.now event = stepped at goesOn
  obtain ⟨controller, effect⟩ := stepped
  rcases effect with _ | effect
  · rfl
  cases effect with
  | completed => cases goesOn
  | createTask | fetchStatus | cancelTask | alert => rfl

theorem requestSheet_history (d : Desk) : d.requestSheet.history = d.history := by
  unfold requestSheet
  split <;> rfl

theorem receive_history {answer : Answer} (goesOn : d.stamped t answer.event? = []) :
    (d.receive t answer).history = d.history.afterAnswer answer := by
  fun_cases receive d t answer
  case case1 | case2 | case3 => exact dispatch_history goesOn
  case case5 path answer =>
      unfold receiveUpload
      split
      · exact requestSheet_history _
      · rfl
  all_goals rfl

theorem Spared.drain {answers : List Answer} (spared : Spared t timestamp d answers)
    (on : d.history.Highlights timestamp) : (drain t answers d).history.Highlights timestamp := by
  induction spared with
  | nil => exact on
  | @cons d _ _ goesOn spares rest ih =>
      apply ih
      have after := receive_history (d := { d with mail := d.mail.taken }) goesOn
      rw [after]
      exact on.afterAnswer spares

theorem Spared.update (spared : Spared t timestamp d d.mail.answers)
    (on : d.history.Highlights timestamp) : (d.update t).history.Highlights timestamp := by
  unfold Desk.update
  rw [dispatch_history]
  · exact spared.drain on
  · -- A tick ends no conversion with a result.
    unfold stamped
    split
    · next result ends =>
        have own := (Conversion.Controller.step_turn (Desk.drain t d.mail.answers d).controller
          t.now .tick).asks_own rfl
        exact absurd rfl (own _ ends)
    · rfl

theorem press_history {p : Press} (files : Files.Tree) (focused : d.focus = .history)
    (clear : d.overlay? = none) (key : p.key = .char 'd' ∨ p.key = .delete ∨ p.key = .enter) :
    d.press t files p = ⟨d.historyKey t files p.key, files, false⟩ := by
  have stays : isQuit p = false := by
    rcases key with same | same | same <;> simp [isQuit, same]
  have panel : d.globalKey t files p = none := by
    rcases key with same | same | same <;> simp [globalKey, same]
  rw [press_clear d t files stays clear, panel]
  unfold panelKey
  rw [focused]
  rfl

/-- What the two keys that act on the highlight do, if it is on a conversion. -/
theorem press_acts (on : d.history.Highlights timestamp) (focused : d.focus = .history)
    (clear : d.overlay? = none) (t : Moment) (files : Files.Tree) :
    ∃ e : Entry, e.timestamp.same timestamp = true ∧
      (d.press t files { key := .char 'd' }).desk = d.submit (.deleteHistory e.timestamp) ∧
      ∀ midi, e.result.midiName = some midi →
        (d.press t files { key := .enter }).desk = d.openViewer midi e.result.title := by
  obtain ⟨e, chosen, same⟩ := on
  refine ⟨e, same, ?_, ?_⟩
  · rw [press_history files focused clear (.inl rfl)]
    show d.deleteSelected = _
    rw [deleteSelected, chosen]
  · intro midi named
    rw [press_history files focused clear (.inr (.inr rfl))]
    show d.openSelected t.now = _
    simp only [openSelected, chosen, named]

/-- With distinct timestamps, a list from the converter leaves the highlight on its timestamp exactly
if it has that among the entries that are kept, and a deletion of another one leaves it on its
conversion unless that slips from under it. So if all answers between two keys spare the highlight,
the second key acts on the conversion that was highlighted before. -/
theorem highlight_slips_only_by_deletion_above (d : Desk) (e : Entry)
    (distinct : History.Distinct d.history.entries) (chosen : d.history.current? = some e) :
    (∀ t timestamp, e.timestamp.same timestamp = false →
      let after := (d.receive t (.historyDeleted timestamp (.ok ()))).history
      (d.history.Slips timestamp → after.current? = d.history.entries[d.history.selected + 1]? ∧
        ¬ after.Highlights e.timestamp) ∧
      (¬ d.history.Slips timestamp → after.current? = some e)) ∧
    (∀ t entries, (d.receive t (.history (.ok entries))).history.Highlights e.timestamp ↔
      ∃ e' ∈ entries.take History.capacity, e'.timestamp.same e.timestamp = true) ∧
    ∀ t, e.timestamp.same e.timestamp = true → Spared t e.timestamp d d.mail.answers →
      (d.update t).focus = .history → (d.update t).overlay? = none →
      ∀ t' files, ∃ e' : Entry, e'.timestamp.same e.timestamp = true ∧
        ((d.update t).press t' files { key := .char 'd' }).desk =
          (d.update t).submit (.deleteHistory e'.timestamp) ∧
        ∀ midi, e'.result.midiName = some midi →
          ((d.update t).press t' files { key := .enter }).desk =
            (d.update t).openViewer midi e'.result.title := by
  refine ⟨?_, ?_, ?_⟩
  · intro t timestamp differs after
    constructor
    · intro slips
      exact ⟨History.remove_slips slips, History.slipped_differs distinct chosen slips⟩
    · intro stays
      exact History.remove_stays chosen differs stays
  · intro t entries
    exact History.replace_highlights_iff chosen entries
  · intro t real spared focused clear t' files
    exact press_acts (spared.update ⟨e, chosen, real⟩) focused clear t' files

/-- A desk on three conversions, the second of which is highlighted. -/
def shelved (answers : List Answer) : Desk :=
  { start "s" .cuda ['/'] with
    history := History.run 10
      [.replace [History.listed 3, History.listed 2, History.listed 1], .selectNext]
    focus := .history
    mail := { answers := answers, inFlight := answers.length } }

theorem slipped_highlight_deletes_another :
    let d := shelved []
    let after := d.receive ⟨0, .zero⟩ (.historyDeleted (.ofNat 3) (.ok ()))
    History.Distinct d.history.entries ∧ d.history.current? = some (History.listed 2) ∧
      (History.listed 2).timestamp.same (.ofNat 3) = false ∧
      after.history.current? = some (History.listed 1) ∧
      (after.press ⟨0, .zero⟩ .empty { key := .char 'd' }).desk.mail.calls =
        [.deleteHistory (History.listed 1).timestamp] := by
  have apart : (History.listed 2).timestamp.same (.ofNat 3) = false := by decide +kernel
  have distinct : History.Distinct (shelved []).history.entries := by
    unfold History.Distinct
    decide +kernel
  have chosen : (shelved []).history.current? = some (History.listed 2) := by decide +kernel
  have slipped : ((shelved []).receive ⟨0, .zero⟩
      (.historyDeleted (.ofNat 3) (.ok ()))).history.current? = some (History.listed 1) := by
    decide +kernel
  refine ⟨distinct, chosen, apart, slipped, ?_⟩
  rw [press_history .empty rfl rfl (.inl rfl)]
  show (deleteSelected _).mail.calls = _
  rw [deleteSelected, slipped]
  rfl

/-- The entry below is deleted, and the list comes with a newer conversion in front. -/
def sparing : List Answer :=
  [.historyDeleted (.ofNat 1) (.ok ()),
    .history (.ok [History.listed 4, History.listed 3, History.listed 2])]

theorem spared_highlight_is_deleted :
    let d := shelved sparing
    let after := d.update ⟨0, .zero⟩
    History.Distinct d.history.entries ∧ d.history.current? = some (History.listed 2) ∧
      Spared ⟨0, .zero⟩ (.ofNat 2) d d.mail.answers ∧ after.history.selected = 2 ∧
      ∃ e' : Entry, e'.timestamp.same (.ofNat 2) = true ∧
        (after.press ⟨0, .zero⟩ .empty { key := .char 'd' }).desk =
          after.submit (.deleteHistory e'.timestamp) := by
  intro d after
  have distinct : History.Distinct d.history.entries := by
    unfold History.Distinct
    decide +kernel
  have chosen : d.history.current? = some (History.listed 2) := by decide +kernel
  have spared : Spared ⟨0, .zero⟩ (.ofNat 2) d d.mail.answers := by
    refine .cons rfl ⟨by decide +kernel, ?_⟩ (.cons rfl ?_ .nil)
    · rintro ⟨place, found, above, -⟩
      have last : d.history.position (.ofNat 1) = some 2 := by decide +kernel
      obtain rfl : 2 = place := Option.some.inj (last.symm.trans found)
      exact absurd above (by decide +kernel)
    · exact ⟨History.listed 2, by decide +kernel, by decide +kernel⟩
  obtain ⟨-, -, acts⟩ := highlight_slips_only_by_deletion_above d (History.listed 2) distinct chosen
  obtain ⟨e', same, deletes, -⟩ :=
    acts ⟨0, .zero⟩ (by decide +kernel) spared rfl rfl ⟨0, .zero⟩ .empty
  exact ⟨distinct, chosen, spared, by decide +kernel, e', same, deletes⟩

end Desk

end KeySheet
