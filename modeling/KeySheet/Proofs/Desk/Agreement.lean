import KeySheet.Proofs.Desk.Conversation
import KeySheet.Proofs.Desk.Outstanding
import KeySheet.Proofs.Desk.Telling

/-! The desk and the session drive the same controller, the one by a mailbox and whenever it is
drawn, the other by calling and sleeping. On the same script both come to the same end, and the desk
tells what the session returns. -/
namespace KeySheet

open Backend (Answer Call Service)
open Conversion (Controller Effect Event Outcome Script Session Time World)
open Desk (Mailbox Moment Move Reacts Silent)
open History (Relisted)

/-- What happens while no key is pressed. What the script does not say, another service does. -/
inductive Pulse where
  | serve (others : Service Id)
  | take (t : Moment)
  | tick (t : Moment)
  | expire (now : Time)
  | draw (width height : Nat)

/-- The desk with its account, and the world of the converter that it calls. -/
structure Scene where
  ledger : Ledger
  world : World

namespace Scene

def move (script : Script) (w : World) : Pulse → Move
  | .serve others => .serve (script.service w others)
  | .take t => .take t
  | .tick t => .tick t
  | .expire now => .expire now
  | .draw width height => .draw width height

/-- Only the worker's step reaches the converter, and only if there is a call. -/
def worldAfter (script : Script) (s : Scene) : Pulse → World
  | .serve _ => match s.ledger.desk.mail.calls with
      | [] => s.world
      | call :: _ => script.account s.world call
  | _ => s.world

def pulse (script : Script) (s : Scene) (p : Pulse) : Scene :=
  ⟨s.ledger.advance (move script s.world p), s.worldAfter script p⟩

def run (script : Script) (s : Scene) (pulses : List Pulse) : Scene := pulses.foldl (pulse script) s

def updatePulses (d : Desk) (t : Moment) : List Pulse :=
  List.replicate d.mail.answers.length (.take t) ++ [.tick t]

/-- An update is a run of its own. -/
theorem run_update (script : Script) (s : Scene) (t : Moment) :
    (s.run script (updatePulses s.ledger.desk t)).ledger.desk = s.ledger.desk.update t := by
  have takes (n : Nat) (s : Scene) :
      (s.run script (List.replicate n (.take t))).ledger.desk =
        (List.replicate n (.take t)).foldl Desk.after s.ledger.desk := by
    induction n generalizing s with
    | zero => rfl
    | succ n ih => exact ih (s.pulse script (.take t))
  rw [Desk.update_eq, Desk.updateMoves, updatePulses, run, List.foldl_append, List.foldl_append,
    ← takes]
  rfl

end Scene

namespace Desk

/-- The next Enter starts a conversion of the source. -/
structure IsReady (d : Desk) (source : Media.Source) : Prop where
  idle : d.controller.phase = .idle
  source : Media.Source.ofInput? d.url d.device = some source
  focus : d.focus = .input
  alert : d.alert = none
  help : d.helpShown = false
  browser : d.browser.isOpen = false
  dialog : d.dialog.isOpen = false

theorem IsReady.press {d : Desk} {source : Media.Source} (h : d.IsReady source) (t : Moment)
    (files : Files.Tree) (ctrl : Bool) :
    (d.press t files { key := .enter, ctrl := ctrl }).desk =
      { d with
        lastResult := none
        controller := d.controller.started (.ofSource source)
        mail := d.mail.submit (.createTask source) } := by
  have still : d.controller.isRunning = false := by
    rw [Controller.isRunning, h.idle]
    rfl
  have start : d.controller.step t.now (.start source (.ofSource source)) =
      (d.controller.started (.ofSource source), some (.createTask source)) :=
    Controller.Turn.step_eq (.start h.idle)
  have pressed : (d.press t files { key := .enter, ctrl := ctrl }).desk = d.toggleConversion t := by
    simp [Desk.press, isQuit, h.alert, h.help, h.browser, h.dialog, globalKey, panelKey, h.focus,
      inputKey]
  rw [pressed, toggleConversion, still, startConversion, h.source]
  dsimp only
  rw [start]
  simp only [Bool.false_eq_true, if_false, dispatch, start, carryOut, submit]

end Desk

namespace Ledger

variable {l : Ledger}

/-- Since the start nothing was told of a conversion. -/
structure Untold (start l : Ledger) : Prop where
  lastResult : l.desk.lastResult = none
  alert : ∀ text, ¬ l.desk.Alarmed text
  history : Relisted start.desk.history l.desk.history
  submitted : ∃ calls, l.submitted = start.submitted ++ calls ∧
    ∀ call ∈ calls, call.isRefresh = false

/-- An outcome was told, and nothing else. -/
structure Told (start : Ledger) (outcome : Outcome) (l : Ledger) : Prop where
  lastResult : ∀ result, l.desk.lastResult = some result ↔ outcome = .ok (some result)
  alert : ∀ text, l.desk.Alarmed text ↔ ∃ why, outcome = .error why ∧ why.message = text
  completed : ∀ result, outcome = .ok (some result) →
    (∃ listed stamp, Relisted start.desk.history listed ∧
      l.desk.history = listed.record (.ofResult stamp result) ∧
      l.desk.history.entries.head? = some (.ofResult stamp result)) ∧
    (l.submitted.drop start.submitted.length).countP Call.isRefresh = 1

variable {start : Ledger} {m : Move}

theorem Untold.silent (h : Untold start l) (mail : Mailbox) (before : mail.calls = l.desk.mail.calls)
    (silent : Silent { l.desk with mail := mail } (l.desk.after m)) :
    Untold start (l.advance m) := by
  obtain ⟨calls, mail', others⟩ := silent.asks
  obtain ⟨more, same, others'⟩ := h.submitted
  refine ⟨silent.lastResult.trans h.lastResult, ?_, h.history.trans silent.history, more ++ calls,
    ?_, List.forall_mem_append.mpr ⟨others', others⟩⟩
  · intro text alarmed
    exact h.alert text (silent.alert text alarmed)
  · rw [← List.append_assoc, ← same]
    exact congrArg (l.submitted ++ ·) (callsOf_submits mail before mail')

theorem Untold.served (h : Untold start l) (service : Service Id) :
    Untold start (l.advance (.serve service)) := by
  obtain ⟨mail, same⟩ := Desk.serve_mail l.desk service
  rw [advance, callsOf_serve, List.append_nil, same]
  exact ⟨h.lastResult, h.alert, h.history, h.submitted⟩

theorem Untold.told {next : Controller} {t : Moment} {outcome : Outcome} (h : Untold start l)
    (mail : Mailbox) (before : mail.calls = l.desk.mail.calls)
    (ends : l.desk.after m = { l.desk with mail := mail, controller := next }.conclude t outcome) :
    Told start outcome (l.advance m) := by
  have shown := Desk.conclude_lastResult (d := { l.desk with mail := mail, controller := next })
    h.lastResult t outcome
  have alert := Desk.conclude_alarmed (d := { l.desk with mail := mail, controller := next })
    h.alert t outcome
  rw [← ends] at shown alert
  refine ⟨shown, alert, ?_⟩
  intro result completed
  subst completed
  obtain ⟨more, same, others⟩ := h.submitted
  have made : callsOf l.desk m = [.history History.capacity] :=
    callsOf_submits mail before (by rw [ends]; rfl)
  have none : more.countP Call.isRefresh = 0 :=
    List.countP_eq_zero.mpr fun call member => Bool.eq_false_iff.mp (others call member)
  have recorded : (l.advance m).desk.history =
      l.desk.history.record (.ofResult t.stamp result) := by rw [advance, ends]; rfl
  refine ⟨⟨l.desk.history, t.stamp, h.history, recorded, by rw [recorded]; rfl⟩, ?_⟩
  rw [advance, made, same, List.append_assoc, List.drop_left, List.countP_append, none]
  rfl

end Ledger

namespace Scene

open Conversion.Controller (Stage Concluded)
open Ledger (Told Untold)

/-- The conversation goes on as the script leads it, and nothing was told yet. -/
structure Going (script : Script) (source : Media.Source) (start : Ledger) (s : Scene) : Prop where
  stage : Stage script source s.ledger.desk.controller s.world
    (s.ledger.desk.mail.calls.filter Call.isConversion)
    (s.ledger.desk.mail.answers.filterMap Answer.event?)
  untold : Untold start s.ledger

/-- The conversation has come to the end of the script, and that was told. -/
structure Ended (script : Script) (source : Media.Source) (start : Ledger) (s : Scene) : Prop where
  concluded : Concluded script source s.ledger.desk.controller s.world
  told : Told start script.verdict.2 s.ledger

variable {script : Script} {source : Media.Source} {start : Ledger} {s : Scene}

/-- A step of the desk, from the mail that it has then: what the stage becomes and that nothing is
told is all there is to show. -/
theorem Going.step (h : Going script source start s) {p : Pulse} (mail : Mailbox) {now : Time}
    {event : Option Event} (before : mail.calls = s.ledger.desk.mail.calls)
    (reacts : Reacts now event { s.ledger.desk with mail := mail }
      (s.ledger.desk.after (move script s.world p)))
    (silent : Silent { s.ledger.desk with mail := mail }
      (s.ledger.desk.after (move script s.world p)))
    (world : s.worldAfter script p = s.world)
    (stage : Stage script source (s.ledger.desk.controller.react now event).1 s.world
      (s.ledger.desk.mail.calls.filter Call.isConversion ++
        (s.ledger.desk.controller.react now event).2)
      (mail.answers.filterMap Answer.event?)) :
    Going script source start (s.pulse script p) := by
  obtain ⟨calls, answers⟩ := reacts.conversation
  refine ⟨?_, h.untold.silent mail before silent⟩
  rw [Scene.pulse, Ledger.advance, reacts.controller, calls, answers, before, world]
  exact stage

/-- A step that has nothing to do with the conversation. -/
theorem Going.aside (h : Going script source start s) {p : Pulse}
    (controller : (s.ledger.desk.after (move script s.world p)).controller =
      s.ledger.desk.controller)
    (mail : (s.ledger.desk.after (move script s.world p)).mail = s.ledger.desk.mail)
    (silent : Silent s.ledger.desk (s.ledger.desk.after (move script s.world p)))
    (world : s.worldAfter script p = s.world) : Going script source start (s.pulse script p) := by
  refine h.step s.ledger.desk.mail rfl (Desk.reacts_same 0 controller mail) silent world ?_
  rw [Controller.react, List.append_nil]
  exact h.stage

theorem Going.idle (h : Going script source start s) {p : Pulse}
    (same : s.ledger.desk.after (move script s.world p) = s.ledger.desk)
    (world : s.worldAfter script p = s.world) : Going script source start (s.pulse script p) := by
  apply h.aside _ _ _ world <;> rw [same]
  exact Desk.silent_same rfl rfl rfl rfl

theorem Going.serve (h : Going script source start s) (others : Service Id) :
    Going script source start (s.pulse script (.serve others)) := by
  cases waiting : s.ledger.desk.mail.calls with
  | nil => exact h.idle (Desk.serve_idle waiting _) (by rw [worldAfter, waiting])
  | cons call rest =>
      have served : s.ledger.desk.after (move script s.world (.serve others)) =
          { s.ledger.desk with
            mail := s.ledger.desk.mail.answered
              (Id.run (Desk.reply (script.service s.world others) call)) } :=
        Desk.serve_oldest waiting _
      have world : s.worldAfter script (.serve others) = script.account s.world call := by
        rw [worldAfter, waiting]
      have calls : s.ledger.desk.mail.calls.drop 1 = rest := by rw [waiting]; rfl
      refine ⟨?_, h.untold.served _⟩
      rw [Scene.pulse, Ledger.advance, served, world]
      dsimp only [Mailbox.answered]
      rw [calls, List.filterMap_append]
      have stage := h.stage
      rw [waiting] at stage
      cases about : call.isConversion with
      | true =>
          rw [List.filter_cons_of_pos about] at stage
          obtain ⟨event, told, next⟩ := stage.served others
          rw [List.filterMap_cons_some told]
          exact next
      | false =>
          have silent : (Id.run (Desk.reply (script.service s.world others) call)).event? = none := by
            rcases Ledger.answers_cases ⟨_, rfl⟩ with ⟨none, -⟩ | ⟨event, -, asks, -⟩
            · exact none
            · cases about.symm.trans asks
          rw [List.filterMap_cons_none silent, script.account_other s.world about]
          rw [List.filter_cons_of_neg (by simp [about])] at stage
          simpa using stage

theorem Going.tick (h : Going script source start s) (t : Moment) :
    Going script source start (s.pulse script (.tick t)) := by
  obtain ⟨stage, quiet⟩ := h.stage.tick t.now
  exact h.step s.ledger.desk.mail rfl (Desk.dispatch_reacts _ t .tick)
    (Desk.dispatch_silent _ t quiet) rfl stage

/-- An answer for the controller leads the conversation on, or to the end of the script; any other
one is taken up in silence. -/
theorem Going.take (h : Going script source start s) (t : Moment) :
    Going script source start (s.pulse script (.take t)) ∨
      Ended script source start (s.pulse script (.take t)) := by
  cases waiting : s.ledger.desk.mail.answers with
  | nil => exact .inl (h.idle (Desk.takeUp_idle waiting t) rfl)
  | cons answer rest =>
      let d : Desk := { s.ledger.desk with mail := s.ledger.desk.mail.taken }
      have taken : s.ledger.desk.after (move script s.world (.take t)) = d.receive t answer :=
        Desk.takeUp_oldest waiting t
      have left : s.ledger.desk.mail.taken.answers = rest := by
        rw [Mailbox.taken, waiting]
        rfl
      have stage := h.stage
      rw [waiting] at stage
      cases told : answer.event? with
      | none =>
          rw [List.filterMap_cons_none told] at stage
          have reacts := Desk.receive_reacts d t answer
          have silent := Desk.receive_silent d t told
          rw [← taken, told] at reacts
          rw [← taken] at silent
          refine .inl (h.step s.ledger.desk.mail.taken rfl reacts silent rfl ?_)
          rw [Controller.react, List.append_nil, left]
          exact stage
      | some event =>
          rw [List.filterMap_cons_some told] at stage
          rw [Desk.receive_event _ t told] at taken
          have reacts := Desk.dispatch_reacts d t event
          rw [← taken] at reacts
          obtain ⟨next, effect, turn, ⟨rfl, on⟩ | ⟨rfl, concluded⟩⟩ := stage.heard t.now
          · have silent : Silent d (d.dispatch t event) :=
              Desk.dispatch_silent d t (by rw [turn.step_eq]; simp)
            rw [← taken] at silent
            refine .inl (h.step s.ledger.desk.mail.taken rfl reacts silent rfl ?_)
            rw [Controller.react, turn.step_eq, left]
            simpa using on
          · have ends := Desk.dispatch_conclude d t turn.step_eq
            rw [← taken] at ends
            refine .inr ⟨?_, h.untold.told s.ledger.desk.mail.taken rfl ends⟩
            rw [Scene.pulse, Ledger.advance, reacts.controller, Controller.react, turn.step_eq]
            exact concluded

theorem Going.pulse (h : Going script source start s) (p : Pulse) :
    Going script source start (s.pulse script p) ∨ Ended script source start (s.pulse script p) := by
  cases p with
  | serve others => exact .inl (h.serve others)
  | take t => exact h.take t
  | tick t => exact .inl (h.tick t)
  | expire now =>
      obtain ⟨notice, same⟩ := Ledger.expireNotice_eq s.ledger.desk now
      have expired : s.ledger.desk.after (move script s.world (.expire now)) =
          { s.ledger.desk with notice := notice } := same
      left
      apply h.aside _ _ _ rfl <;> rw [expired]
      exact Desk.silent_same rfl rfl rfl rfl
  | draw width height =>
      exact .inl (h.aside rfl rfl (Desk.silent_same rfl rfl rfl rfl) rfl)

/-- As long as no end has come, the conversation goes on; the first end is that of the script. -/
theorem Going.run (h : Going script source start s) (pulses : List Pulse)
    (first : ∀ n < pulses.length,
      (s.run script (pulses.take n)).ledger.desk.controller.phase.isTerminal = false) :
    Going script source start (s.run script pulses) ∨
      Ended script source start (s.run script pulses) := by
  induction pulses generalizing s with
  | nil => exact .inl h
  | cons p rest ih =>
      rcases h.pulse p with going | ended
      · apply ih going
        intro n within
        exact first (n + 1) (Nat.succ_lt_succ within)
      · cases rest with
        | nil => exact .inr ended
        | cons q rest =>
            have running := first 1 (Nat.succ_lt_succ (Nat.zero_lt_succ _))
            have finished : (s.pulse script p).ledger.desk.controller.phase.isTerminal = true := by
              rw [ended.concluded.phase]
              exact Outcome.phase_isTerminal _
            cases running.symm.trans finished

end Scene

end KeySheet
