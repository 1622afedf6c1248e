import KeySheet.Proofs.Desk.SheetCalls

/-! What becomes of the list of conversions. It is rewritten by the converter's own list, by a
deletion that the converter agrees to, and by a conversion that the desk sees to its end, which gets
a timestamp of the desk's own making; nothing else touches it. Only what stands in it is ever asked
to be deleted. -/
namespace KeySheet

open Backend (Answer Call)
open Decimal (Binary64)
open Media (Entry)

namespace Backend

/-- The conversions that an answer brings. -/
def Answer.listed? : Answer → Option (List Entry)
  | .history (.ok entries) => some entries
  | _ => none

/-- The timestamp that an answer says is deleted. -/
def Answer.deleted? : Answer → Option Binary64
  | .historyDeleted timestamp (.ok _) => some timestamp
  | _ => none

/-- The timestamp that a call wants deleted. -/
def Call.deletion? : Call → Option Binary64
  | .deleteHistory timestamp => some timestamp
  | _ => none

end Backend

theorem Decimal.Binary64.same_trans {x y z : Binary64} (h : x.same y = true)
    (h' : y.same z = true) : x.same z = true := by
  have zero {x y : Binary64} (same : x.bits = y.bits) : x.isZero = y.isZero := by
    rw [Binary64.isZero, Binary64.isZero, Binary64.magnitude, Binary64.magnitude, same]
  simp only [Binary64.same, Bool.and_eq_true, Bool.or_eq_true, beq_iff_eq] at h h' ⊢
  refine ⟨⟨h.1.1, h'.1.2⟩, ?_⟩
  rcases h.2 with same | zeros
  · rcases h'.2 with same' | zeros'
    · exact .inl (same.trans same')
    · exact .inr ⟨(zero same).trans zeros'.1, zeros'.2⟩
  · rcases h'.2 with same' | zeros'
    · exact .inr ⟨zeros.1, (zero same').symm.trans zeros.2⟩
    · exact .inr ⟨zeros.1, zeros'.2⟩

namespace History

/-- No entry has the timestamp. -/
def Lacks (entries : List Entry) (timestamp : Binary64) : Prop :=
  ∀ e ∈ entries, e.timestamp.same timestamp = false

/-- No two entries have the same timestamp. -/
def Distinct (entries : List Entry) : Prop :=
  entries.Pairwise (fun e e' => e.timestamp.same e'.timestamp = false)

/-- The list after a step that takes up some answers and makes some timestamps. -/
inductive Listing (h : History) : List Answer → List Binary64 → History → Prop
  | same {answers next} : next.entries = h.entries →
      (∀ answer ∈ answers, answer.deleted? = none) → Listing h answers [] next
  | replaced {entries} : Listing h [.history (.ok entries)] [] (h.replace entries)
  | removed {timestamp} :
      Listing h [.historyDeleted timestamp (.ok ())] [] (h.remove timestamp).1
  | recorded {answers stamp result} : (∀ answer ∈ answers, answer.deleted? = none) →
      Listing h answers [stamp] (h.record (.ofResult stamp result))

variable {h : History}

theorem Lacks.sublist {entries fewer : List Entry} {timestamp : Binary64}
    (lacks : Lacks entries timestamp) (sublist : fewer.Sublist entries) : Lacks fewer timestamp :=
  fun e member => lacks e (sublist.subset member)

theorem Distinct.apart {entries : List Entry} (distinct : Distinct entries) {i j : Nat}
    (hi : i < entries.length) (hj : j < entries.length) (other : i ≠ j) :
    entries[i].timestamp.same entries[j].timestamp = false := by
  have ordered := List.pairwise_iff_getElem.mp distinct
  rcases Nat.lt_or_gt_of_ne other with before | after
  · exact ordered i j hi hj before
  · rw [Binary64.same_symm]
    exact ordered j i hj hi after

theorem clamp_entries (h : History) : h.clamp.entries = h.entries := by
  unfold clamp
  split
  · next empty => exact (List.isEmpty_iff.mp empty).symm
  · rfl

theorem replace_sublist (h : History) (entries : List Entry) :
    (h.replace entries).entries.Sublist entries := by
  unfold replace
  dsimp only
  rw [clamp_entries]
  exact List.take_sublist _ _

theorem record_sublist (h : History) (entry : Entry) :
    (h.record entry).entries.Sublist (entry :: h.entries) := by
  refine (List.take_sublist _ _).trans (.cons_cons _ ?_)
  split
  · exact List.eraseIdx_sublist _ _
  · exact .refl _

theorem remove_sublist (h : History) (timestamp : Binary64) :
    (h.remove timestamp).1.entries.Sublist h.entries := by
  unfold remove
  split
  · exact .refl _
  · rw [clamp_entries]
    exact List.eraseIdx_sublist _ _

theorem remove_lacks (distinct : Distinct h.entries) (timestamp : Binary64) :
    Lacks (h.remove timestamp).1.entries timestamp := by
  unfold remove
  split
  · next none =>
      rw [position, List.findIdx?_eq_none_iff] at none
      exact none
  · next i found =>
      rw [clamp_entries]
      obtain ⟨here, there, -⟩ := List.findIdx?_eq_some_iff_getElem.mp found
      -- The first entry with the timestamp goes, and another one would have the same.
      intro e member
      obtain ⟨j, inside, other, rfl⟩ := List.mem_eraseIdx_iff_getElem.mp member
      refine Bool.eq_false_iff.mpr fun same => ?_
      rw [Binary64.same_symm] at same
      have both := Binary64.same_trans there same
      rw [distinct.apart here inside other.symm] at both
      cases both

variable {h' : History} {answers : List Answer} {stamps : List Binary64}

/-- What holds of all that can come into the list, and of all that stands in it, goes on to hold. -/
theorem Listing.forall (listing : Listing h answers stamps h') {P : Binary64 → Prop}
    (before : ∀ e ∈ h.entries, P e.timestamp)
    (listed : ∀ answer ∈ answers, ∀ entries ∈ answer.listed?, ∀ e ∈ entries, P e.timestamp)
    (fresh : ∀ stamp ∈ stamps, P stamp) : ∀ e ∈ h'.entries, P e.timestamp := by
  intro e member
  cases listing with
  | same entries => exact before e (entries ▸ member)
  | @replaced entries =>
      exact listed _ List.mem_cons_self entries rfl e ((replace_sublist h entries).subset member)
  | removed => exact before e ((remove_sublist h _).subset member)
  | recorded =>
      rcases List.mem_cons.mp ((record_sublist h _).subset member) with rfl | old
      · exact fresh _ List.mem_cons_self
      · exact before e old

theorem Listing.distinct (listing : Listing h answers stamps h') (before : Distinct h.entries)
    (listed : ∀ answer ∈ answers, ∀ entries ∈ answer.listed?, Distinct entries)
    (fresh : ∀ stamp ∈ stamps, ∀ e ∈ h.entries, stamp.same e.timestamp = false) :
    Distinct h'.entries := by
  cases listing with
  | same entries => exact entries ▸ before
  | @replaced entries =>
      exact (listed _ List.mem_cons_self entries rfl).sublist (replace_sublist h entries)
  | removed => exact before.sublist (remove_sublist h _)
  | @recorded _ stamp =>
      have ahead := fresh stamp List.mem_cons_self
      exact (List.pairwise_cons.mpr ⟨ahead, before⟩).sublist (record_sublist h _)

theorem Listing.deleted (listing : Listing h answers stamps h') (before : Distinct h.entries) :
    ∀ answer ∈ answers, ∀ timestamp ∈ answer.deleted?, Lacks h'.entries timestamp := by
  intro answer member timestamp deleted
  cases listing with
  | same _ others | recorded others => cases (others answer member).symm.trans deleted
  | replaced =>
      obtain rfl := List.mem_singleton.mp member
      cases deleted
  | removed =>
      obtain rfl := List.mem_singleton.mp member
      obtain rfl := Option.some.inj deleted
      exact remove_lacks before _

end History

namespace Desk

open History (Listing)

/-- What a call wants deleted stands in the list. -/
def Picks (entries : List Entry) (call : Call) : Prop :=
  ∀ timestamp ∈ call.deletion?, ∃ e ∈ entries, e.timestamp = timestamp

/-- A step of which the list is all that is told. -/
structure Lists (answers : List Answer) (stamps : List Binary64) (d d' : Desk) : Prop where
  listing : Listing d.history answers stamps d'.history
  asks : Submits (Picks d.history.entries) d d'

/-- A step that leaves the list alone. -/
structure Unlisted (d d' : Desk) : Prop where
  entries : d'.history.entries = d.history.entries
  asks : Submits (Picks d.history.entries) d d'

/-- The timestamp that the desk makes when an event ends the conversion with a result. -/
def stamped (d : Desk) (t : Moment) (event : Option Conversion.Event) : List Binary64 :=
  match event.bind (fun e => (d.controller.step t.now e).2) with
  | some (.completed _) => [t.stamp]
  | _ => []

variable {d d' d'' : Desk} {t : Moment}

theorem picks_other {entries : List Entry} {call : Call} (other : call.deletion? = none) :
    Picks entries call := by
  intro timestamp wanted
  cases other.symm.trans wanted

theorem unlisted_same (hh : d'.history.entries = d.history.entries) (hm : d'.mail = d.mail) :
    Unlisted d d' :=
  ⟨hh, submits_same _ hm⟩

theorem unlisted_submit (d : Desk) {call : Call} (picks : Picks d.history.entries call) :
    Unlisted d (d.submit call) :=
  ⟨rfl, submits_submit d picks⟩

theorem Unlisted.trans (h : Unlisted d d') (h' : Unlisted d' d'') : Unlisted d d'' :=
  ⟨h'.entries.trans h.entries, h.asks.trans (h.entries ▸ h'.asks)⟩

theorem Unlisted.after (h : Unlisted d' d'') (hh : d'.history.entries = d.history.entries)
    (hm : d'.mail = d.mail) : Unlisted d d'' :=
  (unlisted_same hh hm).trans h

theorem Unlisted.lists {answers : List Answer} (h : Unlisted d d')
    (told : ∀ answer ∈ answers, answer.deleted? = none) : Lists answers [] d d' :=
  ⟨.same h.entries told, h.asks⟩

theorem unlisted_requestSheet (d : Desk) : Unlisted d d.requestSheet := by
  unfold requestSheet
  split
  · exact unlisted_same rfl rfl
  · exact (unlisted_submit _ (picks_other rfl)).after rfl rfl

theorem unlisted_openViewer (d : Desk) (midi title : String) :
    Unlisted d (d.openViewer midi title) :=
  (unlisted_requestSheet _).after rfl rfl

theorem unlisted_toggleMode (d : Desk) (now : Conversion.Time) :
    Unlisted d (d.toggleMode now) := by
  fun_cases toggleMode d now
  · exact (unlisted_requestSheet _).after rfl rfl
  · exact unlisted_same rfl rfl

theorem unlisted_confirmSettings (d : Desk) : Unlisted d d.confirmSettings := by
  have saved (settings : Settings) (dialog : SettingsDialog) : Unlisted d
      ({ d with settings := settings, dialog := dialog }.submit (.saveSettings settings)) :=
    (unlisted_submit _ (picks_other rfl)).after rfl rfl
  fun_cases confirmSettings d
  · exact unlisted_same rfl rfl
  · exact (saved _ _).trans (unlisted_requestSheet _)
  · exact saved _ _

theorem unlisted_dispatch (d : Desk) (t : Moment) {event : Conversion.Event}
    (goesOn : ∀ result, (d.controller.step t.now event).2 ≠ some (.completed result)) :
    Unlisted d (d.dispatch t event) := by
  unfold dispatch
  generalize d.controller.step t.now event = stepped at goesOn
  obtain ⟨controller, effect⟩ := stepped
  rcases effect with _ | effect
  · exact unlisted_same rfl rfl
  cases effect with
  | completed result => exact absurd rfl (goesOn result)
  | alert => exact unlisted_same rfl rfl
  | createTask | fetchStatus | cancelTask =>
      exact (unlisted_submit _ (picks_other rfl)).after rfl rfl

theorem unlisted_own (d : Desk) (t : Moment) {event : Conversion.Event}
    (own : event.isOwn = true) : Unlisted d (d.dispatch t event) := by
  refine unlisted_dispatch d t fun result ends => ?_
  exact (Conversion.Controller.step_turn d.controller t.now event).asks_own own _ ends rfl

theorem unlisted_startConversion (d : Desk) (t : Moment) : Unlisted d (d.startConversion t) := by
  unfold startConversion
  split
  · exact unlisted_same rfl rfl
  · dsimp only
    split
    · exact (unlisted_own _ t rfl).after rfl rfl
    · exact unlisted_own d t rfl

theorem Deed.unlisted (deed : Deed t d d') : Unlisted d d' := by
  cases deed with
  | glance | draft | page | close => exact unlisted_same rfl rfl
  | highlight same => exact unlisted_same same rfl
  | confirm => exact unlisted_confirmSettings d
  | reload =>
      have asked : Unlisted d d.refreshHistory := unlisted_submit d (picks_other rfl)
      exact asked.trans (unlisted_same rfl rfl)
  | @delete entry there =>
      refine unlisted_submit d fun timestamp same => ?_
      cases same
      exact ⟨entry, List.mem_of_getElem? there, rfl⟩
  | upload => exact (unlisted_submit _ (picks_other rfl)).after rfl rfl
  | view => exact unlisted_openViewer d _ _
  | turn => exact unlisted_toggleMode d t.now
  | start => exact unlisted_startConversion d t
  | stop => exact unlisted_own d t rfl

theorem dispatch_lists (d : Desk) (t : Moment) (event : Conversion.Event) {answers : List Answer}
    (told : ∀ answer ∈ answers, answer.deleted? = none) :
    Lists answers (d.stamped t (some event)) d (d.dispatch t event) := by
  unfold stamped
  rw [Option.bind_some]
  split
  · next result ends =>
      have step : d.dispatch t event =
          { d with controller := (d.controller.step t.now event).1 }.finish t result := by
        simp only [dispatch, ends, carryOut]
      rw [step]
      exact ⟨.recorded told, [_], rfl, List.forall_mem_singleton.mpr (picks_other rfl)⟩
  · next goesOn => exact (unlisted_dispatch d t goesOn).lists told

theorem receive_lists (d : Desk) (t : Moment) (answer : Answer) :
    Lists [answer] (d.stamped t answer.event?) d (d.receive t answer) := by
  have aside {d' : Desk} (none : answer.deleted? = none) (h : Unlisted d d') :
      Lists [answer] [] d d' := h.lists (List.forall_mem_singleton.mpr none)
  cases answer with
  | taskCreated | taskStatus | taskStopped =>
      exact dispatch_lists d t _ (List.forall_mem_singleton.mpr rfl)
  | uploaded path answer =>
      cases answer with
      | ok midi => exact aside rfl (unlisted_openViewer d _ _)
      | error e => exact aside rfl (unlisted_same rfl rfl)
  | history answer =>
      cases answer with
      | ok entries => exact ⟨.replaced, submits_same _ rfl⟩
      | error e => exact aside rfl (unlisted_same rfl rfl)
  | historyDeleted timestamp answer =>
      cases answer with
      | ok done => exact ⟨.removed, submits_same _ rfl⟩
      | error e => exact aside rfl (unlisted_same rfl rfl)
  | settingsLoaded answer =>
      rcases answer with e | _ | settings <;> exact aside rfl (unlisted_same rfl rfl)
  | sheet | health => exact aside rfl (unlisted_same rfl rfl)
  | settingsSaved answer => cases answer <;> exact aside rfl (unlisted_same rfl rfl)

end Desk

end KeySheet
