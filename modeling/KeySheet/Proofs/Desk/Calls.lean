import KeySheet.Desk.Update
import KeySheet.Proofs.Conversion.Turn
import KeySheet.Proofs.Desk.Deed

/-! The calls that a step of the desk makes. A step that gives the controller an event makes the
calls its effect asks for and no other ones about a conversion; every other step leaves the
controller alone, and its calls have nothing to do with it. -/
namespace KeySheet

open Backend (Call Answer)
open Conversion (Controller Effect Event Time)

namespace Backend

/-- The call is about the conversion that the controller runs. -/
def Call.isConversion : Call → Bool
  | .createTask _ | .taskStatus _ | .stopTask _ => true
  | _ => false

/-- What the controller is told, if the answer is for the controller. -/
def Answer.event? : Answer → Option Event
  | .taskCreated answer => some (.created answer)
  | .taskStatus task answer => some (.status task answer)
  | .taskStopped task answer => some (.stopped task answer)
  | _ => none

end Backend

namespace Conversion

/-- The call about a conversion that comes of an effect, if there is one. -/
def Effect.call? : Effect → Option Call
  | .createTask source => some (.createTask source)
  | .fetchStatus task => some (.taskStatus task)
  | .cancelTask task => some (.stopTask task)
  | .completed _ | .alert _ => none

/-- Events that come from the desk itself and not from the converter. -/
def Event.isOwn : Event → Bool
  | .start _ _ | .stop | .tick => true
  | .created _ | .status _ _ | .stopped _ _ => false

/-- The controller after an event, or without one, and the calls that come of it. -/
def Controller.react (c : Controller) (now : Time) : Option Event → Controller × List Call
  | none => (c, [])
  | some event => ((c.step now event).1, ((c.step now event).2.bind Effect.call?).toList)

end Conversion

namespace Desk

namespace Mailbox

def submitAll (m : Mailbox) (calls : List Call) : Mailbox :=
  { m with calls := m.calls ++ calls, inFlight := m.inFlight + calls.length }

theorem submitAll_nil (m : Mailbox) : m.submitAll [] = m := by
  simp only [submitAll, List.append_nil, List.length_nil, Nat.add_zero]

theorem submitAll_submitAll (m : Mailbox) (calls more : List Call) :
    (m.submitAll calls).submitAll more = m.submitAll (calls ++ more) := by
  simp only [submitAll, List.append_assoc, List.length_append, Nat.add_assoc]

theorem drop_submitAll (m : Mailbox) (calls : List Call) :
    (m.submitAll calls).calls.drop m.calls.length = calls := by
  simp only [submitAll, List.drop_left]

end Mailbox

/-- Calls were made, and those about a conversion are these. -/
def Asks (d d' : Desk) (about : List Call) : Prop :=
  ∃ calls, d'.mail = d.mail.submitAll calls ∧ calls.filter Call.isConversion = about

/-- The controller is as it was, and no call is about a conversion. -/
structure Aside (d d' : Desk) : Prop where
  controller : d'.controller = d.controller
  asks : Asks d d' []

/-- The controller was given an event, or none, and the calls about a conversion come of that. -/
structure Reacts (now : Time) (event : Option Event) (d d' : Desk) : Prop where
  controller : d'.controller = (d.controller.react now event).1
  asks : Asks d d' (d.controller.react now event).2

/-- Calls were made, all of them of some kind. -/
def Submits (kind : Call → Prop) (d d' : Desk) : Prop :=
  ∃ calls, d'.mail = d.mail.submitAll calls ∧ ∀ call ∈ calls, kind call

variable {d d' d'' : Desk} {t : Moment}

theorem submits_same (kind : Call → Prop) (hm : d'.mail = d.mail) : Submits kind d d' :=
  ⟨[], by rw [hm, Mailbox.submitAll_nil], by simp⟩

theorem submits_submit {kind : Call → Prop} (d : Desk) {call : Call} (h : kind call) :
    Submits kind d (d.submit call) :=
  ⟨[call], rfl, List.forall_mem_singleton.mpr h⟩

theorem Submits.trans {kind : Call → Prop} (h : Submits kind d d') (h' : Submits kind d' d'') :
    Submits kind d d'' := by
  obtain ⟨calls, mail, these⟩ := h
  obtain ⟨more, mail', those⟩ := h'
  refine ⟨calls ++ more, ?_, List.forall_mem_append.mpr ⟨these, those⟩⟩
  rw [mail', mail, Mailbox.submitAll_submitAll]

theorem Asks.trans {about more : List Call} (h : Asks d d' about) (h' : Asks d' d'' more) :
    Asks d d'' (about ++ more) := by
  obtain ⟨calls, mail, rfl⟩ := h
  obtain ⟨calls', mail', rfl⟩ := h'
  exact ⟨calls ++ calls', by rw [mail', mail, Mailbox.submitAll_submitAll], List.filter_append ..⟩

theorem aside_same (hc : d'.controller = d.controller) (hm : d'.mail = d.mail) : Aside d d' :=
  ⟨hc, [], by rw [hm, Mailbox.submitAll_nil], rfl⟩

theorem aside_submit (d : Desk) {call : Call} (other : call.isConversion = false) :
    Aside d (d.submit call) :=
  ⟨rfl, [call], rfl, List.filter_cons_of_neg (by simp [other])⟩

theorem Aside.trans (h : Aside d d') (h' : Aside d' d'') : Aside d d'' :=
  ⟨h'.controller.trans h.controller, h.asks.trans h'.asks⟩

theorem Aside.reacts (h : Aside d d') (now : Time) : Reacts now none d d' := ⟨h.controller, h.asks⟩

theorem Reacts.about {now : Time} {event : Option Event} {calls : List Call}
    (h : Reacts now event d d') (mail : d'.mail = d.mail.submitAll calls) :
    calls.filter Call.isConversion = (d.controller.react now event).2 := by
  obtain ⟨calls', mail', about⟩ := h.asks
  have same : calls' = calls := by
    rw [← d.mail.drop_submitAll calls, ← mail, mail', Mailbox.drop_submitAll]
  rw [← same, about]

theorem reacts_same (now : Time) (hc : d'.controller = d.controller) (hm : d'.mail = d.mail) :
    Reacts now none d d' :=
  (aside_same hc hm).reacts now

theorem Aside.then {now : Time} {event : Event} (h : Aside d d')
    (h' : Reacts now (some event) d' d'') : Reacts now (some event) d d'' := by
  have asks := h.asks.trans h'.asks
  rw [h.controller] at asks
  exact ⟨by rw [h'.controller, h.controller], asks⟩

theorem Aside.after (h : Aside d' d'') (hc : d'.controller = d.controller)
    (hm : d'.mail = d.mail) : Aside d d'' :=
  (aside_same hc hm).trans h

theorem aside_requestSheet (d : Desk) : Aside d d.requestSheet := by
  unfold requestSheet
  split
  · exact aside_same rfl rfl
  · exact (aside_submit _ rfl).after rfl rfl

theorem aside_openViewer (d : Desk) (midi title : String) : Aside d (d.openViewer midi title) :=
  (aside_requestSheet _).after rfl rfl

theorem aside_confirmSettings (d : Desk) : Aside d d.confirmSettings := by
  have saved (settings : Settings) (dialog : SettingsDialog) :
      Aside d ({ d with settings := settings, dialog := dialog }.submit (.saveSettings settings)) :=
    (aside_submit _ rfl).after rfl rfl
  fun_cases confirmSettings d
  · exact aside_same rfl rfl
  · exact (saved _ _).trans (aside_requestSheet _)
  · exact saved _ _

theorem aside_toggleMode (d : Desk) (now : Time) : Aside d (d.toggleMode now) := by
  fun_cases toggleMode d now
  · exact (aside_requestSheet _).after rfl rfl
  · exact aside_same rfl rfl

theorem aside_finish (d : Desk) (t : Moment) (result : Media.Result) :
    Aside d (d.finish t result) :=
  (aside_submit _ rfl).after rfl rfl

theorem carryOut_asks (d : Desk) (t : Moment) (effect : Effect) :
    (d.carryOut t effect).controller = d.controller ∧
      Asks d (d.carryOut t effect) effect.call?.toList := by
  cases effect with
  | createTask source => exact ⟨rfl, [_], rfl, rfl⟩
  | fetchStatus task => exact ⟨rfl, [_], rfl, rfl⟩
  | cancelTask task => exact ⟨rfl, [_], rfl, rfl⟩
  | completed result =>
      have aside := aside_finish d t result
      exact ⟨aside.controller, aside.asks⟩
  | alert why =>
      have aside : Aside d (d.carryOut t (.alert why)) := aside_same rfl rfl
      exact ⟨aside.controller, aside.asks⟩

theorem dispatch_reacts (d : Desk) (t : Moment) (event : Event) :
    Reacts t.now (some event) d (d.dispatch t event) := by
  cases asked : (d.controller.step t.now event).2 with
  | none =>
      have same : d.dispatch t event =
          { d with controller := (d.controller.step t.now event).1 } := by
        simp only [dispatch, asked]
      rw [same]
      refine ⟨rfl, [], (Mailbox.submitAll_nil _).symm, ?_⟩
      simp only [Controller.react, asked]
      rfl
  | some effect =>
      have same : d.dispatch t event =
          { d with controller := (d.controller.step t.now event).1 }.carryOut t effect := by
        simp only [dispatch, asked]
      rw [same]
      obtain ⟨controller, asks⟩ :=
        carryOut_asks { d with controller := (d.controller.step t.now event).1 } t effect
      refine ⟨controller, ?_⟩
      simp only [Controller.react, asked]
      exact asks

/-- A start is for the controller, unless there is nothing to convert. -/
theorem startConversion_reacts (d : Desk) (t : Moment) :
    Aside d (d.startConversion t) ∨
      ∃ source button, Reacts t.now (some (.start source button)) d (d.startConversion t) := by
  cases source : Media.Source.ofInput? d.url d.device with
  | none =>
      simp only [startConversion, source]
      exact .inl (aside_same rfl rfl)
  | some source' =>
      simp only [startConversion, source]
      -- Whether the last result stays on the screen makes no difference to the controller.
      have cleared : Aside d { d with lastResult := none } := aside_same rfl rfl
      split
      · exact .inr ⟨_, _, cleared.then (dispatch_reacts _ t _)⟩
      · exact .inr ⟨_, _, dispatch_reacts d t _⟩

/-- A key starts the conversion, stops it, or leaves it alone. -/
theorem Deed.reacts (deed : Deed t d d') :
    ∃ event, (∀ e ∈ event, e.isOwn = true) ∧ Reacts t.now event d d' := by
  have alone (h : Aside d d') : ∃ event, (∀ e ∈ event, e.isOwn = true) ∧ Reacts t.now event d d' :=
    ⟨none, by simp, h.reacts t.now⟩
  cases deed with
  | confirm => exact alone (aside_confirmSettings d)
  | reload => exact alone ((aside_submit d rfl).trans (aside_same rfl rfl))
  | delete => exact alone (aside_submit d rfl)
  | upload => exact alone ((aside_submit _ rfl).after rfl rfl)
  | view => exact alone (aside_openViewer d _ _)
  | turn => exact alone (aside_toggleMode d t.now)
  | start =>
      rcases startConversion_reacts d t with aside | ⟨source, button, reacts⟩
      · exact alone aside
      · exact ⟨_, by simp [Event.isOwn], reacts⟩
  | stop => exact ⟨_, by simp [Event.isOwn], dispatch_reacts d t .stop⟩
  | glance | draft | highlight | page | close => exact alone (aside_same rfl rfl)

theorem aside_receiveUpload (d : Desk) (path : List Char)
    (answer : Except Backend.Failure String) : Aside d (d.receiveUpload path answer) := by
  unfold receiveUpload
  split
  · exact aside_openViewer d _ _
  · exact aside_same rfl rfl

/-- An answer is for the controller, or leaves it alone. -/
theorem receive_reacts (d : Desk) (t : Moment) (answer : Answer) :
    Reacts t.now answer.event? d (d.receive t answer) := by
  fun_cases receive d t answer
  case case1 | case2 | case3 => exact dispatch_reacts d t _
  case case5 => exact (aside_receiveUpload d _ _).reacts t.now
  all_goals exact reacts_same t.now rfl rfl

theorem receive_event (d : Desk) (t : Moment) {answer : Answer} {event : Event}
    (told : answer.event? = some event) : d.receive t answer = d.dispatch t event := by
  cases answer with
  | taskCreated | taskStatus | taskStopped => cases told; rfl
  | _ => cases told

/-- The calls and answers about a conversion after a step of the desk. -/
theorem Reacts.conversation {now : Time} {event : Option Event} (h : Reacts now event d d') :
    d'.mail.calls.filter Call.isConversion =
        d.mail.calls.filter Call.isConversion ++ (d.controller.react now event).2 ∧
      d'.mail.answers = d.mail.answers := by
  obtain ⟨calls, mail, about⟩ := h.asks
  rw [mail, ← about]
  exact ⟨List.filter_append .., rfl⟩

end Desk

end KeySheet
