import KeySheet.Proofs.Conversion.SessionTurn

/-! A session that nobody stops ends as its script decides. It waits twenty sleeps for each report,
asks, and goes on until a report decides or patience ends; the account of the world says how often
it has asked and how long it took. -/
namespace KeySheet.Conversion

namespace World

/-- So many reports on a task were asked for, each after twenty sleeps, and nothing else was. -/
structure Polled (script : Script) (task : TaskId) (n : Nat) (w w' : World) : Prop where
  clock : w'.clock = w.clock + (script.latency + 2000) * n
  sleeps : w'.sleeps = w.sleeps + 20 * n
  created : w'.created = w.created
  polled : w'.polled = w.polled ++ List.replicate n task
  stopped : w'.stopped = w.stopped

variable {script : Script} {task : TaskId}

def answered (w : World) (script : Script) (task : TaskId) : World :=
  { w with clock := w.clock + script.latency, polled := w.polled ++ [task] }

def submitted (w : World) (script : Script) (source : Media.Source) : World :=
  { w with clock := w.clock + script.latency, created := w.created ++ [source] }

theorem Polled.refl {w : World} : Polled script task 0 w w :=
  ⟨rfl, rfl, rfl, (List.append_nil _).symm, rfl⟩

theorem polled_answered {w w' : World} (h : Slept 20 w w') :
    Polled script task 1 w (w'.answered script task) where
  clock := by
    simp only [answered, h.clock, Nat.mul_one]
    rw [Nat.add_assoc, Nat.add_comm script.latency]
  sleeps := h.sleeps
  created := h.created
  polled := by rw [answered, h.polled]; rfl
  stopped := h.stopped

theorem Polled.trans {n n' : Nat} {w w' w'' : World} (h : Polled script task n w w')
    (h' : Polled script task n' w' w'') : Polled script task (n + n') w w'' where
  clock := by rw [h'.clock, h.clock, Nat.add_assoc, Nat.mul_add]
  sleeps := by rw [h'.sleeps, h.sleeps, Nat.add_assoc, Nat.mul_add]
  created := h'.created.trans h.created
  polled := by rw [h'.polled, h.polled, List.append_assoc, List.replicate_append_replicate]
  stopped := h'.stopped.trans h.stopped

/-- What is shown at last is no part of the account. -/
theorem Polled.see {n : Nat} {w w' w'' : World} (h : Polled script task n w w')
    (h' : Slept 0 w' w'') : Polled script task n w w'' where
  clock := h'.clock.trans h.clock
  sleeps := h'.sleeps.trans h.sleeps
  created := h'.created.trans h.created
  polled := h'.polled.trans h.polled
  stopped := h'.stopped.trans h.stopped

end World

namespace Session

open World (Slept Polled)
open Controller (Turn started)

/-- The task runs, and the next question for its status is due at a time. -/
structure Waits (s : Session) (task : TaskId) (heard : Nat) (due : Time) : Prop where
  idle : s.pending = []
  untold : s.outcome = none
  heeding : s.controller.isHeeding task
  quiet : s.controller.awaiting = false
  attempts : s.controller.attempts = heard
  nextPoll : s.controller.nextPoll = some due
  resetAt : s.controller.resetAt = none

/-- The status of the task is to be asked for now. -/
structure Asks (s : Session) (task : TaskId) (heard : Nat) : Prop where
  pending : s.pending = [.fetchStatus task]
  untold : s.outcome = none
  heeding : s.controller.isHeeding task
  attempts : s.controller.attempts = heard
  resetAt : s.controller.resetAt = none

/-- How the session ends is decided, though it may still have to be told. -/
structure Closes (s : Session) (heard : Nat) (outcome : Outcome) : Prop where
  pending : s.pending = outcome.effect?.toList
  untold : s.outcome = none
  phase : s.controller.phase = outcome.phase
  attempts : s.controller.attempts = heard

variable {script : Script} {wanted : World → Bool} {s : Session} {w : World} {task : TaskId}
  {heard : Nat}

theorem Waits.ended {due : Time} (h : s.Waits task heard due) : s.ended = none := by
  simp only [Session.ended, h.heeding.1]

theorem Waits.nextDeadline {due : Time} (h : s.Waits task heard due) :
    s.controller.nextDeadline = some due := by
  have waiting := Controller.isWaiting_iff.mpr ⟨h.heeding.1, h.quiet, h.heeding.2.2⟩
  simp only [Controller.nextDeadline, waiting, if_true, h.nextPoll, h.resetAt]
  rfl

theorem Waits.apply_early {due now : Time} (h : s.Waits task heard due) (before : now < due) :
    s.seen.apply now .tick = s.seen := by
  have ignored : s.seen.controller.Ignores now .tick := by
    refine ⟨by simp only [seen, h.resetAt, Controller.isDue], fun task' poll => ?_⟩
    have due' : Controller.isDue s.controller.nextPoll now = true := poll.2.2
    simp only [h.nextPoll, Controller.isDue, decide_eq_true_eq] at due'
    exact Nat.not_le_of_lt before due'
  rw [apply_turn (.ignored ignored)]
  exact congrArg (fun pending => { s.seen with pending := pending }) (List.append_nil _)

theorem Waits.early {due now : Time} (h : s.Waits task heard due) (before : now < due) :
    (s.seen.apply now .tick).Waits task heard due := by
  rw [h.apply_early before]
  exact { h with }

theorem Waits.apply_due {due : Time} (h : s.Waits task heard due) :
    s.seen.apply due .tick =
      { s.seen with
        controller := { s.controller with awaiting := true, nextPoll := none }
        pending := [.fetchStatus task] } := by
  have late : Controller.isDue s.seen.controller.resetAt due = false := by
    simp only [seen, h.resetAt, Controller.isDue]
  have now : Controller.isDue s.seen.controller.nextPoll due = true := by
    simp [seen, h.nextPoll, Controller.isDue]
  rw [apply_turn (.poll late h.heeding h.quiet now), show s.seen.pending = [] from h.idle]
  rfl

theorem Waits.due {due : Time} (h : s.Waits task heard due) :
    (s.seen.apply due .tick).Asks task heard := by
  rw [h.apply_due]
  exact ⟨rfl, h.untold, h.heeding, h.attempts, h.resetAt⟩

theorem Waits.turn {due : Time} (h : s.Waits task heard due) (unwanted : wanted (w.see s) = false)
    (fuel : Nat) :
    loop (script.host wanted) (fuel + 1) s w =
      loop (script.host wanted) fuel (s.seen.apply ((w.see s).sleepTo due).clock .tick)
        ((w.see s).sleepTo due) := by
  have deadline : s.seen.controller.nextDeadline = some due := h.nextDeadline
  rw [loop_wait h.idle h.ended unwanted, wait_host deadline]

theorem slept_turn (s : Session) (w : World) (n : Nat) :
    Slept 1 w ((w.see s).sleepTo (w.clock + 100 * (n + 1))) := by
  have looked := World.slept_see w s
  have slept := World.slept_sleepTo (w.see s) n
  rw [show (w.see s).clock = w.clock from looked.clock] at slept
  exact looked.trans slept

/-- Sleep after sleep, the time of the question comes. -/
theorem Waits.asks {n : Nat} (h : s.Waits task heard (w.clock + 100 * (n + 1))) (fuel : Nat) :
    ∃ s' w', loop script.unstopped (fuel + (n + 1)) s w = loop script.unstopped fuel s' w' ∧
      s'.Asks task heard ∧ Slept (n + 1) w w' := by
  induction n generalizing s w with
  | zero =>
      have slept := slept_turn s w 0
      refine ⟨_, _, h.turn rfl fuel, ?_, slept⟩
      rw [slept.clock]
      exact h.due
  | succ n ih =>
      have slept := slept_turn s w (n + 1)
      generalize next : (w.see s).sleepTo (w.clock + 100 * (n + 1 + 1)) = w' at slept
      have due : w.clock + 100 * (n + 1 + 1) = w'.clock + 100 * (n + 1) := by
        rw [slept.clock, Nat.add_comm (n + 1) 1, Nat.mul_add, Nat.add_assoc]
      have later : w'.clock < w.clock + 100 * (n + 1 + 1) := by
        rw [due]
        exact Nat.lt_add_of_pos_right (Nat.succ_pos _)
      have waits := h.early later
      rw [due] at waits
      obtain ⟨s'', w'', run, asks, slept'⟩ := ih waits
      refine ⟨s'', w'', ?_, asks, ?_⟩
      · rw [← Nat.add_assoc, Script.unstopped, h.turn rfl, next]
        exact run
      · rw [Nat.add_comm]
        exact slept.trans slept'

theorem Asks.turn (h : s.Asks task heard) (fuel : Nat) (w : World) :
    loop (script.host wanted) (fuel + 1) s w =
      loop (script.host wanted) fuel
        (s.taken.apply (w.answered script task).clock
          (.status task (script.status w.polled.length)))
        (w.answered script task) :=
  loop_perform h.pending fuel w

theorem Asks.decided (h : s.Asks task heard) {answer : Except Backend.Failure Media.StatusReport}
    {outcome : Outcome} (decides : Script.decision answer = some outcome) (now : Time) :
    (s.taken.apply now (.status task answer)).Closes (heard + 1) outcome := by
  obtain ⟨next, turn, phase, attempts⟩ := Controller.report_decided h.heeding decides now
  rw [apply_turn (s := s.taken) turn]
  exact ⟨rfl, h.untold, phase, h.attempts ▸ attempts⟩

theorem Asks.undecided (h : s.Asks task heard)
    {answer : Except Backend.Failure Media.StatusReport}
    (silent : Script.decision answer = none) (left : heard + 1 < 300) (now : Time) :
    (s.taken.apply now (.status task answer)).Waits task (heard + 1)
      (now + 2000) := by
  have undecided := (Script.decision_eq_none_iff answer).mp silent
  rw [← h.attempts] at left
  rw [apply_turn (s := s.taken) (.undecided h.heeding undecided left)]
  exact ⟨rfl, h.untold, h.heeding, rfl, congrArg (· + 1) h.attempts, rfl, h.resetAt⟩

theorem Asks.timedOut (h : s.Asks task heard) {answer : Except Backend.Failure Media.StatusReport}
    (silent : Script.decision answer = none) (spent : heard + 1 = 300) (now : Time) :
    (s.taken.apply now (.status task answer)).Closes (heard + 1) (.error .timeout) := by
  rw [← h.attempts] at spent
  obtain ⟨next, turn, phase, attempts⟩ := Controller.report_timedOut h.heeding silent spent now
  rw [apply_turn (s := s.taken) turn]
  exact ⟨rfl, h.untold, phase, h.attempts ▸ attempts⟩

/-- What is decided is told within two turns, and the controller stays as it is. -/
theorem Closes.settles {outcome : Outcome} (h : s.Closes heard outcome) (script : Script)
    (fuel : Nat) (w : World) :
    ∃ s', s'.controller = s.controller ∧
      loop (script.host wanted) (fuel + 2) s w = (some (outcome, s'.seen), w.see s') := by
  have pending := h.pending
  have phase := h.phase
  rcases outcome with why | _ | result
  · have ends : ended { s.taken with outcome := some (.error why) } = some (.error why) := by
      simp only [ended, taken, phase, Outcome.phase]
    rw [loop_perform pending, perform_alert]
    exact ⟨{ s.taken with outcome := some (.error why) }, rfl, loop_ended rfl ends fuel w⟩
  · have ends : s.ended = some (.ok none) := by
      simp only [ended, phase, Outcome.phase, h.untold, Option.getD_none]
    exact ⟨s, rfl, loop_ended pending ends (fuel + 1) w⟩
  · have ends : ended { s.taken with outcome := some (.ok (some result)) } =
        some (.ok (some result)) := by
      simp only [ended, taken, phase, Outcome.phase]
    rw [loop_perform pending, perform_completed]
    exact ⟨{ s.taken with outcome := some (.ok (some result)) }, rfl, loop_ended rfl ends fuel w⟩

theorem Closes.ends {outcome : Outcome} (h : s.Closes heard outcome) (script : Script)
    (fuel : Nat) (w : World) :
    ∃ s', loop script.unstopped (fuel + 2) s w = (some (outcome, s'.seen), w.see s') := by
  obtain ⟨s', -, ends⟩ := h.settles script fuel w
  exact ⟨s', ends⟩

/-- Questions are left and the next one is set for its time, or patience has ended. -/
def Goes (s : Session) (w : World) (task : TaskId) (heard : Nat) : Nat → Prop
  | 0 => s.Closes heard (.error .timeout)
  | _ + 1 => s.Waits task heard (w.clock + 2000)

theorem Asks.goes (h : s.Asks task heard) {answer : Except Backend.Failure Media.StatusReport}
    (silent : Script.decision answer = none) {left : Nat} (room : heard + (left + 1) = 300)
    (w : World) : (s.taken.apply w.clock (.status task answer)).Goes w task (heard + 1) left := by
  cases left with
  | zero => exact h.timedOut silent room w.clock
  | succ left =>
      have more : heard + 1 < 300 := by omega
      exact h.undecided silent more w.clock

/-- A question takes twenty sleeps and the call. -/
theorem Waits.poll (h : s.Waits task heard (w.clock + 2000)) (count : w.polled.length = heard)
    (fuel : Nat) :
    ∃ (s' : Session) (w' : World), s'.Asks task heard ∧ Polled script task 1 w w' ∧
      loop script.unstopped (fuel + 21) s w =
        loop script.unstopped fuel (s'.taken.apply w'.clock (.status task (script.status heard)))
          w' := by
  obtain ⟨s', w', run, asks, slept⟩ := h.asks (n := 19) (fuel + 1)
  refine ⟨s', _, asks, World.polled_answered slept, ?_⟩
  rw [run, Script.unstopped, asks.turn, slept.polled, count]

/-- From one question to the next, until a report decides or patience ends. -/
theorem Goes.settles {left : Nat} (h : s.Goes w task heard left) (script : Script)
    (count : w.polled.length = heard) (room : heard + left = 300) {fuel : Nat}
    (enough : 21 * left + 2 ≤ fuel) :
    ∃ n s' w', (script.verdictFrom heard left).1 = heard + n ∧
      loop script.unstopped fuel s w = (some ((script.verdictFrom heard left).2, s'), w') ∧
      Polled script task n w w' ∧
      s'.controller.phase = (script.verdictFrom heard left).2.phase ∧
      s'.controller.attempts = heard + n := by
  -- On the questions left: each takes at most twenty-one turns, and the end two more.
  induction left generalizing s w heard fuel with
  | zero =>
      obtain ⟨fuel, rfl⟩ := Nat.exists_eq_add_of_le' enough
      obtain ⟨s', same, ends⟩ := Closes.settles h script fuel w
      refine ⟨0, s'.seen, w.see s', rfl, ends, World.Polled.refl.see (World.slept_see w s'), ?_, ?_⟩
      · exact (congrArg Controller.phase same).trans h.phase
      · exact (congrArg Controller.attempts same).trans h.attempts
  | succ left ih =>
      obtain ⟨rest, rfl⟩ : ∃ rest, fuel = rest + 21 := ⟨fuel - 21, by omega⟩
      obtain ⟨s', w', asks, polled, run⟩ := Waits.poll h count rest
      rw [run]
      cases decides : Script.decision (script.status heard) with
      | some outcome =>
          obtain ⟨fuel, rfl⟩ : ∃ fuel, rest = fuel + 2 := ⟨rest - 2, by omega⟩
          have closes := asks.decided decides w'.clock
          obtain ⟨s'', same, ends⟩ := closes.settles script fuel w'
          rw [Script.verdictFrom_decided decides]
          refine ⟨1, _, _, rfl, ends, polled.see (World.slept_see w' s''), ?_, ?_⟩
          · exact (congrArg Controller.phase same).trans closes.phase
          · exact (congrArg Controller.attempts same).trans closes.attempts
      | none =>
          have count' : w'.polled.length = heard + 1 := by
            rw [polled.polled, List.length_append, count]
            rfl
          have room' : heard + 1 + left = 300 := by omega
          have enough' : 21 * left + 2 ≤ rest := by omega
          obtain ⟨n, s'', w'', same, ends, polled', phase, attempts⟩ :=
            ih (asks.goes decides room w') count' room' enough'
          rw [Script.verdictFrom_undecided decides]
          exact ⟨1 + n, s'', w'', by rw [same, Nat.add_assoc], ends, polled.trans polled', phase,
            by rw [attempts, Nat.add_assoc]⟩

theorem Goes.verdict {left : Nat} (h : s.Goes w task heard left) (script : Script)
    (count : w.polled.length = heard) (room : heard + left = 300) {fuel : Nat}
    (enough : 21 * left + 2 ≤ fuel) :
    ∃ n s' w', (script.verdictFrom heard left).1 = heard + n ∧
      loop script.unstopped fuel s w = (some ((script.verdictFrom heard left).2, s'), w') ∧
      Polled script task n w w' := by
  obtain ⟨n, s', w', same, ends, polled, -⟩ := h.settles script count room enough
  exact ⟨n, s', w', same, ends, polled⟩

def opened (source : Media.Source) : Session :=
  { controller := started {} (Button.ofSource source) }

theorem run_begun {c : Controller} (rest : c.phase = .idle) (source : Media.Source) (w : World) :
    run (script.host wanted) c source w =
      loop (script.host wanted) 9999
        ((opened source).apply (w.submitted script source).clock (.created script.create))
        (w.submitted script source) := by
  have turn : Turn c w.clock (.start source (Button.ofSource source)) _ _ := .start rest
  rw [run, bind_state, dispatch_host, apply_turn (s := { controller := c }) turn]
  exact loop_perform (s := { opened source with pending := [.createTask source] }) rfl 9999 w

theorem run_opened (script : Script) (source : Media.Source) (w : World) :
    run script.unstopped {} source w =
      loop script.unstopped 9999
        ((opened source).apply (w.submitted script source).clock (.created script.create))
        (w.submitted script source) :=
  run_begun rfl source w

theorem opened_refused (source : Media.Source) (e : Backend.Failure) (now : Time) :
    ((opened source).apply now (.created (.error e))).Closes 0 (.error (.start e.userMessage)) := by
  rw [apply_turn (s := opened source) (.refused rfl)]
  exact ⟨rfl, rfl, rfl, rfl⟩

theorem opened_created (source : Media.Source) (task : TaskId) (w : World) :
    ((opened source).apply w.clock (.created (.ok task))).Goes w task 0 300 := by
  rw [apply_turn (s := opened source) (.created rfl)]
  exact ⟨rfl, rfl, ⟨rfl, rfl, rfl⟩, rfl, rfl, rfl, rfl⟩

/-- A session that nobody stops, on a scripted converter, ends as the script decides, and has asked
and slept as often as that takes. -/
theorem run_unstopped (script : Script) (source : Media.Source) (start : Time) :
    ∃ s w, run script.unstopped {} source { clock := start } = (some (script.verdict.2, s), w) ∧
      w.created = [source] ∧
      w.polled = (match script.create with
        | .ok task => List.replicate script.verdict.1 task
        | .error _ => []) ∧
      w.stopped = [] ∧
      w.sleeps = 20 * script.verdict.1 ∧
      w.clock = start + script.latency * w.calls + 2000 * script.verdict.1 := by
  rw [run_opened]
  cases created : script.create with
  | error e =>
      obtain ⟨s, ends⟩ := (opened_refused source e _).ends script 9997
        (World.submitted { clock := start } script source)
      have looked := World.slept_see (World.submitted { clock := start } script source) s
      refine ⟨s.seen, _, ?_, looked.created, looked.polled, looked.stopped, ?_, ?_⟩
      · simp only [Script.verdict, created]
        exact ends
      · simp only [Script.verdict, created]
        exact looked.sleeps
      · simp only [Script.verdict, created, World.calls, looked.created, looked.polled,
          looked.stopped, looked.clock]
        simp [World.submitted]
  | ok task =>
      have goes := opened_created source task (World.submitted { clock := start } script source)
      obtain ⟨n, s, w, same, ends, polled⟩ :=
        goes.verdict script rfl rfl (show 21 * 300 + 2 ≤ 9999 by omega)
      rw [Nat.zero_add] at same
      have verdict : script.verdict = script.verdictFrom 0 300 := by
        simp only [Script.verdict, created]
      rw [verdict, same]
      refine ⟨s, w, ends, polled.created, polled.polled, polled.stopped, ?_, ?_⟩
      · simpa [World.submitted] using polled.sleeps
      · have calls : w.calls = 1 + n := by
          simp [World.calls, polled.created, polled.polled, polled.stopped, World.submitted]
        rw [polled.clock, calls, Nat.add_mul, Nat.mul_add, Nat.mul_one, Nat.add_assoc start,
          Nat.add_assoc script.latency]
        exact Nat.add_assoc _ _ _

end Session

end KeySheet.Conversion
