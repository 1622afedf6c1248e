import KeySheet.Proofs.Desk.Ledger
import KeySheet.Proofs.Desk.Owed

/-! The controller takes an answer for that of the current conversion whenever the name of the task
fits. That it is one rests on the order of the calls: in every phase the calls about a conversion
that have no answer are those of the phase, so at rest there are none left to come back late. -/
namespace KeySheet.Ledger

open Backend (Answer Call)
open Conversion (Controller Effect Event)
open Desk (Answers Move Reacts)

/-- An answer is for the controller if its call is about the conversion, and only then. -/
theorem answers_cases {call : Call} {answer : Answer} (h : Answers call answer) :
    (answer.event? = none ∧ call.isConversion = false) ∨
      ∃ event, answer.event? = some event ∧ call.isConversion = true ∧ call.Awaits event := by
  obtain ⟨service, rfl⟩ := h
  cases call with
  | createTask source => exact .inr ⟨_, rfl, rfl, .created⟩
  | taskStatus task => exact .inr ⟨_, rfl, rfl, .status⟩
  | stopTask task => exact .inr ⟨_, rfl, rfl, .stopped⟩
  | _ => exact .inl ⟨rfl, rfl⟩

def owed (l : Ledger) : List Call := l.outstanding.filter Call.isConversion

/-- The account fits the mailbox and the phase of the controller. -/
structure Accounted (l : Ledger) : Prop where
  balanced : l.Balanced
  coherent : l.desk.controller.Coherent
  owes : l.desk.controller.Owes l.owed

variable {l l' : Ledger}

theorem accounted_fresh (server : String) (device : Media.Device) (dir : List Char) :
    (fresh server device dir).Accounted :=
  ⟨balanced_fresh server device dir, Controller.coherent_fresh, rfl⟩

theorem Accounted.own {now : Conversion.Time} {event : Option Event} (h : l.Accounted)
    (own : ∀ e ∈ event, e.isOwn = true) :
    (l.desk.controller.react now event).1.Coherent ∧
      (l.desk.controller.react now event).1.Owes
        (l.owed ++ (l.desk.controller.react now event).2) := by
  cases event with
  | none => exact ⟨h.coherent, by simpa only [Controller.react, List.append_nil] using h.owes⟩
  | some e =>
      have turn := Controller.step_turn l.desk.controller now e
      exact ⟨h.coherent.turn turn, h.owes.own h.coherent (own e rfl) turn⟩

theorem Accounted.took {now : Conversion.Time} {call : Call} {answer : Answer} {rest : List Call}
    (h : l.Accounted) (oldest : l.outstanding = call :: rest) (answers : Answers call answer) :
    (l.desk.controller.react now answer.event?).1.Coherent ∧
      (l.desk.controller.react now answer.event?).1.Owes
        (rest.filter Call.isConversion ++ (l.desk.controller.react now answer.event?).2) := by
  have owes := h.owes
  rw [owed, oldest] at owes
  rcases answers_cases answers with ⟨none, other⟩ | ⟨event, some, about, awaits⟩
  · rw [List.filter_cons_of_neg (by simp [other])] at owes
    rw [none]
    exact ⟨h.coherent, by simpa only [Controller.react, List.append_nil] using owes⟩
  · rw [List.filter_cons_of_pos about] at owes
    rw [some]
    have turn := Controller.step_turn l.desk.controller now event
    exact ⟨h.coherent.turn turn, owes.answered h.coherent awaits turn⟩

theorem Accounted.advance (h : l.Accounted) (step : Advance l l') : l'.Accounted := by
  have balanced := h.balanced.advance step
  cases step with
  | @own now event d calls own reacts mail =>
      obtain ⟨coherent, owes⟩ := h.own own
      refine ⟨balanced, reacts.controller ▸ coherent, ?_⟩
      rw [owed, h.balanced.outstanding_append, List.filter_append, reacts.about mail]
      exact reacts.controller ▸ owes
  | served waiting answers => exact ⟨balanced, h.coherent, h.owes⟩
  | @took now answer rest d calls waiting reacts mail =>
      obtain ⟨call, more, oldest, answers, left⟩ := h.balanced.oldest waiting
      obtain ⟨coherent, owes⟩ := h.took oldest answers
      refine ⟨balanced, reacts.controller ▸ coherent, ?_⟩
      rw [owed, left, List.filter_append, reacts.about mail]
      exact reacts.controller ▸ owes

theorem Accounted.play (h : l.Accounted) (moves : List Move) : (l.play moves).Accounted :=
  play_keeps (fun accounted step => accounted.advance step) h moves

theorem unheard {calls : List Call} {answers : List Answer}
    (answered : List.Forall₂ Answers calls answers)
    (others : calls.filter Call.isConversion = []) : answers.filterMap Answer.event? = [] := by
  induction answered with
  | nil => rfl
  | cons answers _ ih =>
      rcases answers_cases answers with ⟨none, other⟩ | ⟨event, -, asks, -⟩
      · rw [List.filter_cons_of_neg (by simp [other])] at others
        rw [List.filterMap_cons_none none, ih others]
      · rw [List.filter_cons_of_pos asks] at others
        cases others

/-- At rest no call about a conversion is without an answer, so whatever comes for the controller
afterwards answers a call made afterwards. -/
theorem Accounted.fresh_answers (h : l.Accounted)
    (still : l.desk.controller.isRunning = false) (later : List Move) {i : Nat} {answer : Answer}
    (taken : (l.play later).drained[i]? = some answer) (about : answer.event? ≠ none)
    (late : l.drained.length ≤ i) : l.submitted.length ≤ i := by
  obtain ⟨call, made, answers⟩ := (h.play later).balanced.answered_call taken
  apply Nat.le_of_not_lt
  intro early
  have before : l.submitted[i]? = some call := by
    obtain ⟨more, same⟩ := submitted_prefix l later
    rw [← same, List.getElem?_append_left early] at made
    exact made
  have waiting : call ∈ l.outstanding := by
    apply List.mem_of_getElem? (i := i - l.drained.length)
    rw [outstanding, List.getElem?_drop, Nat.add_sub_cancel' late, before]
  have asks : call.isConversion = true := by
    rcases answers_cases answers with ⟨none, -⟩ | ⟨event, -, asks, -⟩
    · exact absurd none about
    · exact asks
  have owed : call ∈ l.owed := List.mem_filter.mpr ⟨waiting, asks⟩
  rw [h.owes.nothing still] at owed
  cases owed

/-- After any moves whatever, the answers taken up are those to the first calls in order, the calls
in flight are the other ones, and those of them about a conversion are the ones of the phase. What
the controller is told after it was at rest therefore answers what it asked for after that. -/
theorem play_accounted (server : String) (device : Media.Device) (dir : List Char)
    (moves : List Move) :
    let l := (fresh server device dir).play moves
    l.desk.mail.inFlight = l.outstanding.length ∧
    List.Forall₂ Answers (l.submitted.take l.drained.length) l.drained ∧
    (∃ done, l.outstanding = done ++ l.desk.mail.calls ∧
      List.Forall₂ Answers done l.desk.mail.answers) ∧
    l.desk.controller.Owes (l.outstanding.filter Call.isConversion) ∧
    ∀ earlier later, moves = earlier ++ later →
      let before := (fresh server device dir).play earlier
      before.desk.controller.isRunning = false →
      ∀ i answer, l.drained[i]? = some answer → answer.event? ≠ none →
        before.drained.length ≤ i → before.submitted.length ≤ i := by
  intro l
  have accounted := (accounted_fresh server device dir).play moves
  obtain ⟨drained, outstanding⟩ := accounted.balanced.split
  refine ⟨accounted.balanced.inFlight, drained, outstanding, accounted.owes, ?_⟩
  intro earlier later same before still i answer taken about late
  have first := (accounted_fresh server device dir).play earlier
  have whole : l = before.play later := by rw [← play_append, ← same]
  rw [whole] at taken
  exact first.fresh_answers still later taken about late

end KeySheet.Ledger
