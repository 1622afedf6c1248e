import KeySheet.Proofs.Conversion.Script
import KeySheet.Proofs.Desk.Calls

/-! How the desk tells of the end of a conversion: by its result, which comes first in the history,
or by an alert. Nothing else that it takes up looks like one of these. -/
namespace KeySheet

open Backend (Answer Call)
open Conversion (Controller Effect Event Outcome)

/-- The call asks for the history. -/
def Backend.Call.isRefresh : Call → Bool
  | .history _ => true
  | _ => false

/-- The history after the converter has sent its own, or has agreed to a deletion, any number of
times. -/
inductive History.Relisted (h : History) : History → Prop
  | same : Relisted h h
  | replaced {next entries} : Relisted h next → Relisted h (next.replace entries)
  | removed {next timestamp} : Relisted h next → Relisted h (next.remove timestamp).1

open History (Relisted)

theorem History.Relisted.trans {h h' h'' : History} (first : Relisted h h')
    (later : Relisted h' h'') : Relisted h h'' := by
  induction later with
  | same => exact first
  | replaced _ ih => exact .replaced ih
  | removed _ ih => exact .removed ih

namespace Desk

/-- The alert tells of a conversion that failed. -/
def Alarmed (d : Desk) (text : String) : Prop := d.alert = some (.error ("Error: " ++ text))

/-- A step that tells of no conversion. -/
structure Silent (d d' : Desk) : Prop where
  lastResult : d'.lastResult = d.lastResult
  alert : ∀ text, d'.Alarmed text → d.Alarmed text
  history : Relisted d.history d'.history
  asks : Submits (·.isRefresh = false) d d'

/-- The desk at the end of a conversion. -/
def conclude (d : Desk) (t : Moment) : Outcome → Desk
  | .ok (some result) => d.finish t result
  | .ok none => d
  | .error why => d.showError ("Error: " ++ why.message)

variable {d d' d'' : Desk} {t : Moment}

theorem Silent.trans (h : Silent d d') (h' : Silent d' d'') : Silent d d'' := by
  refine ⟨h'.lastResult.trans h.lastResult, ?_, h.history.trans h'.history, h.asks.trans h'.asks⟩
  intro text alarmed
  exact h.alert text (h'.alert text alarmed)

theorem silent_relisted (hr : d'.lastResult = d.lastResult)
    (ha : ∀ text, d'.Alarmed text → d.Alarmed text) (hh : Relisted d.history d'.history)
    (hm : d'.mail = d.mail) : Silent d d' :=
  ⟨hr, ha, hh, submits_same _ hm⟩

theorem silent_same (hr : d'.lastResult = d.lastResult) (ha : d'.alert = d.alert)
    (hh : d'.history = d.history) (hm : d'.mail = d.mail) : Silent d d' := by
  refine silent_relisted hr ?_ (hh ▸ .same) hm
  intro text alarmed
  exact ha.symm.trans alarmed

theorem silent_submit (d : Desk) {call : Call} (other : call.isRefresh = false) :
    Silent d (d.submit call) :=
  ⟨rfl, fun _ alarmed => alarmed, .same, submits_submit d other⟩

theorem Silent.after (h : Silent d' d'') (hr : d'.lastResult = d.lastResult)
    (ha : d'.alert = d.alert) (hh : d'.history = d.history) (hm : d'.mail = d.mail) :
    Silent d d'' :=
  (silent_same hr ha hh hm).trans h

/-- Other failures are told in words that begin with another letter. -/
theorem silent_showError (d : Desk) {message : String} (other : message.toList.head? = some 'F') :
    Silent d (d.showError message) := by
  refine silent_relisted rfl ?_ .same rfl
  intro text alarmed
  have same : message = "Error: " ++ text := congrArg Alert.message (Option.some.inj alarmed)
  simp [same] at other

theorem silent_openViewer (d : Desk) (midi title : String) : Silent d (d.openViewer midi title) := by
  unfold openViewer requestSheet
  split
  · exact silent_same rfl rfl rfl rfl
  · exact (silent_submit _ rfl).after rfl rfl rfl rfl

theorem silent_receiveUpload (d : Desk) (path : List Char)
    (answer : Except Backend.Failure String) : Silent d (d.receiveUpload path answer) := by
  unfold receiveUpload
  split
  · exact silent_openViewer d _ _
  · exact silent_showError d (by simp)

/-- An answer that is not for the controller. -/
theorem receive_silent (d : Desk) (t : Moment) {answer : Answer} (other : answer.event? = none) :
    Silent d (d.receive t answer) := by
  fun_cases receive d t answer
  case case1 | case2 | case3 => cases other
  case case5 => exact silent_receiveUpload d _ _
  case case6 => exact silent_relisted rfl (fun _ alarmed => alarmed) (.replaced .same) rfl
  case case8 => exact silent_relisted rfl (fun _ alarmed => alarmed) (.removed .same) rfl
  case case9 => exact silent_showError d (by simp)
  all_goals exact silent_same rfl rfl rfl rfl

theorem dispatch_silent (d : Desk) (t : Moment) {event : Event}
    (asks : ∀ e ∈ (d.controller.step t.now event).2, e.call? ≠ none) :
    Silent d (d.dispatch t event) := by
  unfold dispatch
  generalize d.controller.step t.now event = stepped at asks
  obtain ⟨controller, effect⟩ := stepped
  cases effect with
  | none => exact silent_same rfl rfl rfl rfl
  | some effect =>
      have call := asks effect rfl
      cases effect with
      | createTask | fetchStatus | cancelTask => exact (silent_submit _ rfl).after rfl rfl rfl rfl
      | completed | alert => exact absurd rfl call

theorem dispatch_conclude (d : Desk) (t : Moment) {event : Event} {next : Controller}
    {outcome : Outcome} (step : d.controller.step t.now event = (next, outcome.effect?)) :
    d.dispatch t event = { d with controller := next }.conclude t outcome := by
  unfold dispatch
  rw [step]
  rcases outcome with why | _ | result <;> rfl

theorem conclude_lastResult {d : Desk} (none : d.lastResult = none) (t : Moment)
    (outcome : Outcome) (result : Media.Result) :
    (d.conclude t outcome).lastResult = some result ↔ outcome = .ok (some result) := by
  rcases outcome with why | _ | found
  · show d.lastResult = some result ↔ _
    simp [none]
  · show d.lastResult = some result ↔ _
    simp [none]
  · show some found = some result ↔ _
    simp

theorem conclude_alarmed {d : Desk} (calm : ∀ text, ¬ d.Alarmed text) (t : Moment)
    (outcome : Outcome) (text : String) :
    (d.conclude t outcome).Alarmed text ↔ ∃ why, outcome = .error why ∧ why.message = text := by
  rcases outcome with why | _ | found
  · show some (Alert.error ("Error: " ++ why.message)) = some (.error ("Error: " ++ text)) ↔ _
    simp [Alert.error]
  · show d.Alarmed text ↔ _
    simp [calm text]
  · show d.Alarmed text ↔ _
    simp [calm text]

end Desk

end KeySheet
