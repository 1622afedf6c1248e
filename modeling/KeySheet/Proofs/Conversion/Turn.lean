import Mathlib.Logic.Basic
import KeySheet.Conversion.Controller

/-! What one event can do to the controller, said once: an event that is not due is ignored, and
every other one has a case of its own with its guards. All laws of the controller are read off
these cases, never off the step function. -/
namespace KeySheet.Conversion

open Backend (Failure)
open Media (StatusReport)

/-- A report after which no other one is asked for. -/
def isDecisive : Except Backend.Failure StatusReport → Bool
  | .ok report => match report.status with
      | .completed | .cancelled | .error => true
      | .pending | .processing | .other => false
  | .error _ => false

namespace Controller

def started (c : Controller) (button : Button) : Controller :=
  { phase := .submitting
    buttons := c.buttons.begin button
    gauge := ⟨"Starting conversion...", 10, true⟩ }

def heard (c : Controller) : Controller :=
  { c with awaiting := false, attempts := c.attempts + 1 }

/-- The line below the buttons after a report that decides nothing. -/
def gaugeAfter (c : Controller) : Except Backend.Failure StatusReport → Gauge
  | .ok report => ⟨runningMessage report, percentAt c.attempts, true⟩
  | .error _ => c.gauge

/-- The task is polled, and stopping it was not asked for. -/
def isHeeding (c : Controller) (task : TaskId) : Prop :=
  c.phase = .polling ∧ c.task = some task ∧ c.stopping = false

/-- Events that are not due. -/
def Ignores (c : Controller) (now : Time) : Event → Prop
  | .start _ _ => c.phase ≠ .idle
  | .created _ => c.phase ≠ .submitting
  | .status task _ | .stopped task _ => ¬ (c.phase = .polling ∧ c.task = some task)
  | .stop => ∀ task, ¬ c.isHeeding task
  | .tick => isDue c.resetAt now = false ∧
      ∀ task, ¬ (c.isHeeding task ∧ c.awaiting = false ∧ isDue c.nextPoll now = true)

/-- One event at one time: what the controller becomes, and what is to be done. -/
inductive Turn (c : Controller) (now : Time) : Event → Controller → Option Effect → Prop
  | ignored {event} : c.Ignores now event → Turn c now event c none
  | start {source button} : c.phase = .idle →
      Turn c now (.start source button) (c.started button) (some (.createTask source))
  | created {task} : c.phase = .submitting →
      Turn c now (.created (.ok task))
        { c with phase := .polling, task := some task, nextPoll := some (now + pollInterval) } none
  | refused {e} : c.phase = .submitting →
      Turn c now (.created (.error e)) (c.fail (.start e.userMessage) now).1
        (some (.alert (.start e.userMessage)))
  /-- A report while the task is being stopped is not looked at. -/
  | muted {task answer} : c.phase = .polling → c.task = some task → c.stopping = true →
      Turn c now (.status task answer) { c with awaiting := false } none
  | completed {task report} : c.isHeeding task → report.status = .completed →
      Turn c now (.status task (.ok report))
        { c.heard with
          phase := .completed
          gauge := ⟨"Done!", 100, true⟩
          nextPoll := none
          resetAt := some (now + resetDelay) } (some (.completed report.result))
  | cancelled {task report} : c.isHeeding task → report.status = .cancelled →
      Turn c now (.status task (.ok report)) (c.heard.cancel now) none
  | failed {task report} : c.isHeeding task → report.status = .error →
      Turn c now (.status task (.ok report))
        (c.heard.fail (.backend (report.error.getD "Conversion failed")) now).1
        (some (.alert (.backend (report.error.getD "Conversion failed"))))
  | undecided {task answer} : c.isHeeding task → isDecisive answer = false →
      c.attempts + 1 < maxAttempts →
      Turn c now (.status task answer)
        { c.heard with gauge := c.gaugeAfter answer, nextPoll := some (now + pollInterval) } none
  | timedOut {task answer} : c.isHeeding task → isDecisive answer = false →
      maxAttempts ≤ c.attempts + 1 →
      Turn c now (.status task answer)
        ({ c.heard with gauge := c.gaugeAfter answer }.fail .timeout now).1
        (some (.alert .timeout))
  | stop {task} : c.isHeeding task →
      Turn c now .stop { c with stopping := true, buttons := c.buttons.markStopping }
        (some (.cancelTask task))
  | stopped {task answer} : c.phase = .polling → c.task = some task →
      Turn c now (.stopped task answer) (c.cancel now) none
  | reset : isDue c.resetAt now = true → Turn c now .tick c.reset none
  | poll {task} : isDue c.resetAt now = false → c.isHeeding task → c.awaiting = false →
      isDue c.nextPoll now = true →
      Turn c now .tick { c with awaiting := true, nextPoll := none } (some (.fetchStatus task))

variable {c : Controller} {now : Time}

theorem isCurrent_iff {task : TaskId} :
    c.isCurrent task = true ↔ c.phase = .polling ∧ c.task = some task := by
  simp [isCurrent]

theorem isWaiting_iff :
    c.isWaiting = true ↔ c.phase = .polling ∧ c.awaiting = false ∧ c.stopping = false := by
  simp [isWaiting, and_assoc]

theorem onStatus_heeding {task : TaskId} (h : c.isHeeding task)
    (answer : Except Backend.Failure StatusReport) :
    c.onStatus task answer now = { c with awaiting := false }.onReport answer now := by
  simp only [onStatus, isCurrent_iff.mpr ⟨h.1, h.2.1⟩, h.2.2, if_true, Bool.false_eq_true, if_false]

theorem onReport_undecided {answer : Except Backend.Failure StatusReport}
    (h : isDecisive answer = false) :
    { c with awaiting := false }.onReport answer now =
      { c.heard with gauge := c.gaugeAfter answer }.pollAgain now := by
  cases answer with
  | error e => rfl
  | ok report =>
      cases status : report.status with
      | completed | cancelled | error => simp [isDecisive, status] at h
      | pending | processing | other => simp only [onReport, status, heard, gaugeAfter]

/-- An event that is not due changes nothing and asks for nothing. -/
theorem step_ignored {event : Event} (h : c.Ignores now event) : c.step now event = (c, none) := by
  cases event with
  | start source button => exact if_neg h
  | created answer => exact if_neg h
  | status task answer => exact if_neg (fun current => h (isCurrent_iff.mp current))
  | stopped task answer => exact if_neg (fun current => h (isCurrent_iff.mp current))
  | stop =>
      by_cases active : (c.phase = .polling && !c.stopping) = true
      · cases same : c.task with
        | none => simp only [step, Controller.stop, active, same, if_true]
        | some task =>
            have heeding : c.isHeeding task := by simpa [isHeeding, same] using active
            exact absurd heeding (h task)
      · exact if_neg active
  | tick =>
      obtain ⟨early, notDue⟩ := h
      simp only [step, Controller.tick, early, Bool.false_eq_true, if_false]
      by_cases due : (c.isWaiting && isDue c.nextPoll now) = true
      · rw [if_pos due]
        obtain ⟨waiting, due⟩ := Bool.and_eq_true_iff.mp due
        obtain ⟨polling, idle, heeding⟩ := isWaiting_iff.mp waiting
        cases same : c.task with
        | none => rfl
        | some task => exact absurd ⟨⟨polling, same, heeding⟩, idle, due⟩ (notDue task)
      · rw [if_neg due]

theorem Turn.step_eq {event : Event} {next : Controller} {effect : Option Effect}
    (turn : Turn c now event next effect) : c.step now event = (next, effect) := by
  cases turn with
  | ignored h => exact step_ignored h
  | start idle => simp only [step, Controller.start, idle, if_true, started]
  | created submitting => simp only [step, onCreated, submitting, if_true]
  | refused submitting => simp only [step, onCreated, submitting, if_true, fail]
  | muted polling same stopping =>
      simp only [step, onStatus, isCurrent_iff.mpr ⟨polling, same⟩, stopping, if_true]
  | completed h status =>
      simp only [step, onStatus_heeding h, onReport, status, heard]
  | cancelled h status =>
      simp only [step, onStatus_heeding h, onReport, status, heard]
  | failed h status =>
      simp only [step, onStatus_heeding h, onReport, status, heard, fail]
  | undecided h undecided left =>
      have more : ¬ maxAttempts ≤ c.attempts + 1 := Nat.not_le_of_lt left
      simp only [step, onStatus_heeding h, onReport_undecided undecided, pollAgain, heard, more,
        if_false]
  | timedOut h undecided spent =>
      simp only [step, onStatus_heeding h, onReport_undecided undecided, pollAgain, heard, spent,
        if_true, fail]
  | stop h => simp [step, Controller.stop, h.1, h.2.1, h.2.2]
  | stopped polling same => simp only [step, onStopped, isCurrent_iff.mpr ⟨polling, same⟩, if_true]
  | reset due => simp only [step, Controller.tick, due, if_true]
  | poll early h idle due =>
      have waiting := isWaiting_iff.mpr ⟨h.1, idle, h.2.2⟩
      simp [step, Controller.tick, early, waiting, due, h.2.1]

theorem report_turns {task : TaskId} (h : c.isHeeding task)
    (answer : Except Backend.Failure StatusReport) :
    ∃ next effect, Turn c now (.status task answer) next effect := by
  cases undecided : isDecisive answer with
  | false =>
      by_cases spent : maxAttempts ≤ c.attempts + 1
      · exact ⟨_, _, .timedOut h undecided spent⟩
      · exact ⟨_, _, .undecided h undecided (Nat.lt_of_not_le spent)⟩
  | true =>
      cases answer with
      | error e => cases undecided
      | ok report =>
          cases status : report.status with
          | completed => exact ⟨_, _, .completed h status⟩
          | cancelled => exact ⟨_, _, .cancelled h status⟩
          | error => exact ⟨_, _, .failed h status⟩
          | pending | processing | other => simp [isDecisive, status] at undecided

theorem exists_turn (c : Controller) (now : Time) (event : Event) :
    ∃ next effect, Turn c now event next effect := by
  by_cases ignored : c.Ignores now event
  · exact ⟨_, _, .ignored ignored⟩
  cases event with
  | start source button => exact ⟨_, _, .start (not_not.mp ignored)⟩
  | created answer =>
      have submitting := not_not.mp ignored
      cases answer with
      | ok task => exact ⟨_, _, .created submitting⟩
      | error e => exact ⟨_, _, .refused submitting⟩
  | status task answer =>
      obtain ⟨polling, same⟩ := not_not.mp ignored
      cases stopping : c.stopping with
      | true => exact ⟨_, _, .muted polling same stopping⟩
      | false => exact report_turns ⟨polling, same, stopping⟩ answer
  | stop =>
      obtain ⟨task, heeding⟩ := not_forall_not.mp ignored
      exact ⟨_, _, .stop heeding⟩
  | stopped task answer =>
      obtain ⟨polling, same⟩ := not_not.mp ignored
      exact ⟨_, _, .stopped polling same⟩
  | tick =>
      cases ended : isDue c.resetAt now with
      | true => exact ⟨_, _, .reset ended⟩
      | false =>
          obtain ⟨task, heeding, idle, due⟩ := not_forall_not.mp (fun none => ignored ⟨ended, none⟩)
          exact ⟨_, _, .poll ended heeding idle due⟩

theorem step_turn (c : Controller) (now : Time) (event : Event) :
    Turn c now event (c.step now event).1 (c.step now event).2 := by
  obtain ⟨next, effect, turn⟩ := exists_turn c now event
  rw [turn.step_eq]
  exact turn

theorem run_cons (c : Controller) (head : Time × Event) (rest : List (Time × Event)) :
    c.run (head :: rest) =
      (((c.step head.1 head.2).1.run rest).1,
        (c.step head.1 head.2).2.toList ++ ((c.step head.1 head.2).1.run rest).2) := rfl

/-- What every turn keeps, every run keeps. -/
theorem run_keeps {P : Controller → Prop}
    (keeps : ∀ {c now event next effect}, P c → Turn c now event next effect → P next)
    {c : Controller} (h : P c) (events : List (Time × Event)) : P (c.run events).1 := by
  induction events generalizing c with
  | nil => exact h
  | cons head rest ih => exact ih (keeps h (step_turn c head.1 head.2))

end Controller

end KeySheet.Conversion
