import Mathlib.Data.List.Forall2
import KeySheet.Proofs.Desk.Calls
import KeySheet.Screen.Render

/-! Keys, the worker's steps and updates in any order, with an account of all calls made and of all
answers taken up. The account is kept beside the desk, which does not know of it; it shows that the
answers come back in the order of the calls, one for each. -/
namespace KeySheet

open Backend (Answer Call Service)
open Conversion (Time)

namespace Backend

/-- A converter that keeps some settings and takes new ones, and has nothing else to say. -/
def Service.keeping (settings : Settings) : Service Id where
  createTask _ := (.error (.rejected "") : Except Failure Conversion.TaskId)
  taskStatus _ := (.error (.rejected "") : Except Failure Media.StatusReport)
  stopTask _ := (.ok () : Except Failure Unit)
  convertToSheets _ _ := (.error (.rejected "") : Except Failure Sheet.Score)
  uploadMidi _ := (.error (.rejected "") : Except Failure String)
  history _ := (.ok [] : Except Failure (List Media.Entry))
  deleteHistory _ := (.ok () : Except Failure Unit)
  loadSettings := (.ok (some settings) : Except Failure (Option Settings))
  saveSettings _ := (.ok () : Except Failure Unit)
  health := (.ok () : Except Failure Unit)

end Backend

namespace Desk

/-- One thing that happens. An update is a move for each answer and one for the tick, so that the
worker may go on in between. -/
inductive Move where
  | press (t : Moment) (files : Files.Tree) (p : Press)
  /-- Each call may find the converter in another state. -/
  | serve (service : Service Id)
  | take (t : Moment)
  | tick (t : Moment)
  | expire (now : Time)
  | draw (width height : Nat)

def takeUp (d : Desk) (t : Moment) : Desk :=
  match d.mail.answers with
  | [] => d
  | answer :: _ => { d with mail := d.mail.taken }.receive t answer

def after (d : Desk) : Move → Desk
  | .press t files p => (d.press t files p).desk
  | .serve service => Id.run (d.serve service)
  | .take t => d.takeUp t
  | .tick t => d.dispatch t .tick
  | .expire now => d.expireNotice now
  | .draw width height => d.resize width height

def updateMoves (d : Desk) (t : Moment) : List Move :=
  List.replicate d.mail.answers.length (.take t) ++ [.tick t]

/-- What the worker makes of a call. -/
def reply {m : Type → Type} [Monad m] (service : Service m) (call : Call) : m Answer :=
  call.perform service

/-- Some service makes this answer of the call. -/
def Answers (call : Call) (answer : Answer) : Prop :=
  ∃ service : Service Id, answer = Id.run (reply service call)

theorem receive_answers (d : Desk) (t : Moment) (answer : Answer) :
    (d.receive t answer).mail.answers = d.mail.answers := by
  obtain ⟨calls, mail, -⟩ := (receive_reacts d t answer).asks
  rw [mail]
  rfl

theorem drain_eq (d : Desk) (t : Moment) (answers : List Answer) (h : d.mail.answers = answers) :
    drain t answers d = (List.replicate answers.length (Move.take t)).foldl after d := by
  induction answers generalizing d with
  | nil => rfl
  | cons answer rest ih =>
      have next : d.after (.take t) = { d with mail := d.mail.taken }.receive t answer := by
        simp only [after, takeUp, h]
      have left : (d.after (.take t)).mail.answers = rest := by
        rw [next, receive_answers]
        simp only [Mailbox.taken, h, List.drop_succ_cons, List.drop_zero]
      rw [drain, ← next, ih _ left]
      rfl

/-- An update is the sequence of its moves. -/
theorem update_eq (d : Desk) (t : Moment) : d.update t = (d.updateMoves t).foldl after d := by
  rw [update, drain_eq d t d.mail.answers rfl, updateMoves, List.foldl_append]
  rfl

theorem serve_idle {d : Desk} (h : d.mail.calls = []) (service : Service Id) :
    d.after (.serve service) = d := by
  simp only [after, serve, Mailbox.serve, h]
  rfl

theorem serve_oldest {d : Desk} {call : Call} {rest : List Call} (h : d.mail.calls = call :: rest)
    (service : Service Id) :
    d.after (.serve service) =
      { d with mail := d.mail.answered (Id.run (reply service call)) } := by
  simp only [after, serve, Mailbox.serve, h]
  rfl

theorem serve_mail (d : Desk) (service : Service Id) :
    ∃ mail, d.after (.serve service) = { d with mail := mail } := by
  cases waiting : d.mail.calls with
  | nil => exact ⟨d.mail, serve_idle waiting service⟩
  | cons call rest => exact ⟨_, serve_oldest waiting service⟩

theorem takeUp_idle {d : Desk} (h : d.mail.answers = []) (t : Moment) : d.after (.take t) = d := by
  simp only [after, takeUp, h]

theorem takeUp_oldest {d : Desk} {answer : Answer} {rest : List Answer}
    (h : d.mail.answers = answer :: rest) (t : Moment) :
    d.after (.take t) = { d with mail := d.mail.taken }.receive t answer := by
  simp only [after, takeUp, h]

end Desk

/-- The desk with all calls made so far and all answers taken up so far, the oldest first. -/
structure Ledger where
  desk : Desk
  submitted : List Call
  drained : List Answer

namespace Ledger

open Desk (Answers Mailbox Move Reacts)

def fresh (server : String) (device : Media.Device) (dir : List Char) : Ledger :=
  ⟨.start server device dir, (Desk.start server device dir).mail.calls, []⟩

/-- Calls are added at the end; the worker makes none. -/
def callsOf (d : Desk) (m : Move) : List Call := (d.after m).mail.calls.drop d.mail.calls.length

def answersOf (d : Desk) : Move → List Answer
  | .take _ => d.mail.answers.take 1
  | _ => []

def advance (l : Ledger) (m : Move) : Ledger :=
  ⟨l.desk.after m, l.submitted ++ callsOf l.desk m, l.drained ++ answersOf l.desk m⟩

def play (l : Ledger) (moves : List Move) : Ledger := moves.foldl advance l

/-- The calls without an answer that was taken up. -/
def outstanding (l : Ledger) : List Call := l.submitted.drop l.drained.length

/-- What one move can do to the ledger. -/
inductive Advance (l : Ledger) : Ledger → Prop
  /-- The desk moves by itself, and may make calls. -/
  | own {now event d calls} : (∀ e ∈ event, e.isOwn = true) → Reacts now event l.desk d →
      d.mail = l.desk.mail.submitAll calls → Advance l ⟨d, l.submitted ++ calls, l.drained⟩
  | served {call rest answer} : l.desk.mail.calls = call :: rest → Answers call answer →
      Advance l ⟨{ l.desk with mail := l.desk.mail.answered answer }, l.submitted, l.drained⟩
  | took {now answer rest d calls} : l.desk.mail.answers = answer :: rest →
      Reacts now answer.event? { l.desk with mail := l.desk.mail.taken } d →
      d.mail = l.desk.mail.taken.submitAll calls →
      Advance l ⟨d, l.submitted ++ calls, l.drained ++ [answer]⟩

variable {l l' : Ledger}

theorem callsOf_submits {d : Desk} {m : Move} (mail : Mailbox) {calls : List Call}
    (before : mail.calls = d.mail.calls) (after : (d.after m).mail = mail.submitAll calls) :
    callsOf d m = calls := by
  rw [callsOf, after, ← before, Mailbox.drop_submitAll]

theorem callsOf_serve (d : Desk) (service : Service Id) : callsOf d (.serve service) = [] := by
  cases waiting : d.mail.calls with
  | nil => rw [callsOf, Desk.serve_idle waiting, waiting, List.drop_nil]
  | cons call rest =>
      rw [callsOf, Desk.serve_oldest waiting]
      simp [Mailbox.answered, waiting]

theorem advance_own {m : Move} {now : Time} {event : Option Conversion.Event}
    (own : ∀ e ∈ event, e.isOwn = true) (reacts : Reacts now event l.desk (l.desk.after m))
    (untaken : answersOf l.desk m = []) : Advance l (l.advance m) := by
  obtain ⟨calls, mail, -⟩ := reacts.asks
  rw [advance, untaken, List.append_nil, callsOf_submits _ rfl mail]
  exact .own own reacts mail

theorem advance_same {m : Move} (hc : (l.desk.after m).controller = l.desk.controller)
    (hm : (l.desk.after m).mail = l.desk.mail) (untaken : answersOf l.desk m = []) :
    Advance l (l.advance m) :=
  advance_own (fun _ none => by cases none) (Desk.reacts_same 0 hc hm) untaken

theorem expireNotice_eq (d : Desk) (now : Time) :
    ∃ notice, d.expireNotice now = { d with notice := notice } := by
  fun_cases Desk.expireNotice d now <;> exact ⟨_, rfl⟩

theorem advance_cases (l : Ledger) (m : Move) : Advance l (l.advance m) := by
  cases m with
  | press t files p =>
      obtain ⟨event, own, reacts⟩ := (Desk.press_deed l.desk t files p).reacts
      exact advance_own own reacts rfl
  | serve service =>
      cases waiting : l.desk.mail.calls with
      | nil =>
          have idle := Desk.serve_idle waiting service
          exact advance_same (by rw [idle]) (by rw [idle]) rfl
      | cons call rest =>
          have served := Desk.serve_oldest waiting service
          rw [advance, callsOf_serve, served, List.append_nil]
          show Advance l ⟨_, l.submitted, l.drained ++ []⟩
          rw [List.append_nil]
          exact .served waiting ⟨service, rfl⟩
  | take t =>
      cases waiting : l.desk.mail.answers with
      | nil =>
          have idle := Desk.takeUp_idle waiting t
          exact advance_same (by rw [idle]) (by rw [idle]) (by simp [answersOf, waiting])
      | cons answer rest =>
          have taken := Desk.takeUp_oldest waiting t
          have reacts := Desk.receive_reacts { l.desk with mail := l.desk.mail.taken } t answer
          obtain ⟨calls, mail, -⟩ := reacts.asks
          have made : callsOf l.desk (.take t) = calls :=
            callsOf_submits l.desk.mail.taken rfl (by rw [taken, mail])
          have answers : answersOf l.desk (.take t) = [answer] := by simp [answersOf, waiting]
          rw [advance, made, answers, taken]
          exact .took waiting reacts mail
  | tick t =>
      exact advance_own (by simp [Conversion.Event.isOwn]) (Desk.dispatch_reacts l.desk t .tick) rfl
  | expire now =>
      obtain ⟨notice, same⟩ := expireNotice_eq l.desk now
      exact advance_same (by rw [Desk.after, same]) (by rw [Desk.after, same]) rfl
  | draw width height => exact advance_same rfl rfl rfl

theorem play_append (l : Ledger) (first rest : List Move) :
    l.play (first ++ rest) = (l.play first).play rest :=
  List.foldl_append

theorem submitted_prefix (l : Ledger) (moves : List Move) :
    l.submitted <+: (l.play moves).submitted := by
  induction moves generalizing l with
  | nil => exact List.prefix_rfl
  | cons m rest ih => exact (List.prefix_append _ _).trans (ih (l.advance m))

theorem drained_prefix (l : Ledger) (moves : List Move) : l.drained <+: (l.play moves).drained := by
  induction moves generalizing l with
  | nil => exact List.prefix_rfl
  | cons m rest ih => exact (List.prefix_append _ _).trans (ih (l.advance m))

/-- The calls of a run are those of its first move and then those of the rest. -/
theorem submitted_since (l : Ledger) (m : Move) (rest : List Move) :
    (l.play (m :: rest)).submitted.drop l.submitted.length =
      callsOf l.desk m ++
        ((l.advance m).play rest).submitted.drop (l.advance m).submitted.length := by
  obtain ⟨more, same⟩ := submitted_prefix (l.advance m) rest
  show ((l.advance m).play rest).submitted.drop l.submitted.length = _
  rw [← same, List.drop_left, advance, List.append_assoc, List.drop_left]

theorem drained_since (l : Ledger) (m : Move) (rest : List Move) :
    (l.play (m :: rest)).drained.drop l.drained.length =
      answersOf l.desk m ++ ((l.advance m).play rest).drained.drop (l.advance m).drained.length := by
  obtain ⟨more, same⟩ := drained_prefix (l.advance m) rest
  show ((l.advance m).play rest).drained.drop l.drained.length = _
  rw [← same, List.drop_left, advance, List.append_assoc, List.drop_left]

/-- What every move keeps, every play keeps. -/
theorem play_keeps {P : Ledger → Prop} (keeps : ∀ {l l'}, P l → Advance l l' → P l') {l : Ledger}
    (h : P l) (moves : List Move) : P (l.play moves) := by
  induction moves generalizing l with
  | nil => exact h
  | cons m rest ih => exact ih (keeps h (advance_cases l m))

/-- Every call waits in its place, or has its answer there. -/
structure Balanced (l : Ledger) : Prop where
  order : ∃ done, l.submitted = done ++ l.desk.mail.calls ∧
    List.Forall₂ Answers done (l.drained ++ l.desk.mail.answers)
  count : l.drained.length + l.desk.mail.inFlight = l.submitted.length

theorem balanced_fresh (server : String) (device : Media.Device) (dir : List Char) :
    (fresh server device dir).Balanced :=
  ⟨⟨[], rfl, .nil⟩, rfl⟩

theorem Balanced.advance (h : l.Balanced) (step : Advance l l') : l'.Balanced := by
  obtain ⟨⟨done, submitted, answered⟩, count⟩ := h
  cases step with
  | own _ _ mail =>
      refine ⟨⟨done, ?_, ?_⟩, ?_⟩
      · rw [mail, submitted, List.append_assoc]
        rfl
      · rw [mail]
        exact answered
      · rw [mail, List.length_append, ← count, Nat.add_assoc]
        rfl
  | @served call rest answer waiting answers =>
      refine ⟨⟨done ++ [call], ?_, ?_⟩, count⟩
      · rw [submitted, waiting, List.append_assoc]
        simp [Mailbox.answered, waiting]
      · have more : List.Forall₂ Answers (done ++ [call])
            ((l.drained ++ l.desk.mail.answers) ++ [answer]) :=
          List.rel_append answered (.cons answers .nil)
        rw [List.append_assoc] at more
        exact more
  | @took now answer rest d calls waiting _ mail =>
      have length := answered.length_eq
      rw [waiting] at answered length
      refine ⟨⟨done, ?_, ?_⟩, ?_⟩
      · rw [mail, submitted, List.append_assoc]
        rfl
      · rw [mail, List.append_assoc]
        simpa [Mailbox.submitAll, Mailbox.taken, waiting] using answered
      · -- The count does not stop at nothing here: the answer itself is still in flight.
        rw [submitted] at count ⊢
        simp only [mail, Mailbox.submitAll, Mailbox.taken, List.length_append, List.length_cons,
          List.length_nil] at count length ⊢
        omega

theorem Balanced.play (h : l.Balanced) (moves : List Move) : (l.play moves).Balanced :=
  play_keeps (fun balanced step => balanced.advance step) h moves

/-- The answers taken up are those to the first calls, in order; behind them wait the answers not
taken up, in order, and then the calls without an answer. -/
theorem Balanced.split (h : l.Balanced) :
    List.Forall₂ Answers (l.submitted.take l.drained.length) l.drained ∧
      ∃ done, l.outstanding = done ++ l.desk.mail.calls ∧
        List.Forall₂ Answers done l.desk.mail.answers := by
  obtain ⟨⟨done, submitted, answered⟩, -⟩ := h
  have length := answered.length_eq
  rw [List.length_append] at length
  have within : l.drained.length ≤ done.length := length ▸ Nat.le_add_right _ _
  refine ⟨?_, done.drop l.drained.length, ?_, List.forall₂_drop_append _ _ _ answered⟩
  · rw [submitted, List.take_append_of_le_length within]
    exact List.forall₂_take_append _ _ _ answered
  · rw [outstanding, submitted, List.drop_append_of_le_length within]

theorem Balanced.inFlight (h : l.Balanced) : l.desk.mail.inFlight = l.outstanding.length := by
  have count := h.count
  rw [outstanding, List.length_drop]
  omega

theorem Balanced.drained_le (h : l.Balanced) : l.drained.length ≤ l.submitted.length :=
  h.count ▸ Nat.le_add_right _ _

/-- A call is paired with its answer in an account of both. -/
theorem Balanced.pairs (h : l.Balanced) :
    l.submitted.zip l.drained = (l.submitted.take l.drained.length).zip l.drained := by
  rw [List.zip_eq_zip_take_min, Nat.min_eq_right h.drained_le, List.take_length]

theorem Balanced.outstanding_append (h : l.Balanced) (desk : Desk) (calls : List Call) :
    outstanding ⟨desk, l.submitted ++ calls, l.drained⟩ = l.outstanding ++ calls :=
  List.drop_append_of_le_length h.drained_le

/-- The answer that is taken up next is the one to the oldest call. -/
theorem Balanced.oldest (h : l.Balanced) {answer : Answer} {rest : List Answer}
    (waiting : l.desk.mail.answers = answer :: rest) :
    ∃ call more, l.outstanding = call :: more ∧ Answers call answer ∧
      ∀ desk calls, outstanding ⟨desk, l.submitted ++ calls, l.drained ++ [answer]⟩ =
        more ++ calls := by
  obtain ⟨-, done, outstanding, answered⟩ := h.split
  rw [waiting] at answered
  cases answered with
  | @cons call _ done _ answers _ =>
      refine ⟨call, done ++ l.desk.mail.calls, outstanding, answers, fun desk calls => ?_⟩
      have first : l.submitted.drop l.drained.length = call :: (done ++ l.desk.mail.calls) :=
        outstanding
      have within : l.drained.length + 1 ≤ l.submitted.length := by
        have length := congrArg List.length first
        rw [List.length_drop, List.length_cons] at length
        omega
      show List.drop (l.drained ++ [answer]).length (l.submitted ++ calls) = _
      rw [List.length_append, List.length_singleton, List.drop_append_of_le_length within,
        ← List.drop_drop, first]
      rfl

theorem answersOf_take (d : Desk) (m : Move) : ∃ n, answersOf d m = d.mail.answers.take n := by
  cases m with
  | take t => exact ⟨1, rfl⟩
  | _ => exact ⟨0, rfl⟩

/-- A move answers the oldest calls, if any, and adds those that it makes. -/
theorem Balanced.outstanding_next (h : l.Balanced) (m : Move) :
    ∃ gone rest, l.outstanding = gone ++ rest ∧ List.Forall₂ Answers gone (answersOf l.desk m) ∧
      (l.advance m).outstanding = rest ++ callsOf l.desk m := by
  obtain ⟨-, done, waiting, answered⟩ := h.split
  obtain ⟨n, taken⟩ := answersOf_take l.desk m
  have gone := List.forall₂_take n answered
  rw [← taken] at gone
  have all : l.outstanding = done.take n ++ (done.drop n ++ l.desk.mail.calls) := by
    rw [waiting, ← List.append_assoc, List.take_append_drop]
  refine ⟨done.take n, done.drop n ++ l.desk.mail.calls, all, gone, ?_⟩
  have length := congrArg List.length all
  rw [outstanding, List.length_drop, List.length_append, gone.length_eq] at length
  have within : l.drained.length + (answersOf l.desk m).length ≤ l.submitted.length := by
    have := h.drained_le
    omega
  show List.drop (l.drained ++ answersOf l.desk m).length (l.submitted ++ callsOf l.desk m) = _
  rw [List.length_append, List.drop_append_of_le_length within, ← List.drop_drop, ← outstanding, all,
    ← gone.length_eq, List.drop_left]

theorem answered_at {calls : List Call} {answers : List Answer}
    (h : List.Forall₂ Answers calls answers) {i : Nat} {answer : Answer}
    (there : answers[i]? = some answer) : ∃ call, calls[i]? = some call ∧ Answers call answer := by
  induction h generalizing i with
  | nil => cases there
  | @cons call answer' calls answers first _ ih =>
      cases i with
      | zero =>
          obtain rfl := Option.some.inj there
          exact ⟨call, rfl, first⟩
      | succ i => exact ih there

theorem Balanced.answered_call (h : l.Balanced) {i : Nat} {answer : Answer}
    (taken : l.drained[i]? = some answer) :
    ∃ call, l.submitted[i]? = some call ∧ Answers call answer := by
  obtain ⟨call, made, answers⟩ := answered_at h.split.1 taken
  rw [List.getElem?_take] at made
  split at made
  · exact ⟨call, made, answers⟩
  · cases made

end Ledger

end KeySheet
