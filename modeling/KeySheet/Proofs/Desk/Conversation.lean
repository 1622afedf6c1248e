import KeySheet.Proofs.Conversion.Coherence
import KeySheet.Proofs.Conversion.Verdict
import KeySheet.Proofs.Desk.Ledger

/-! A conversion that is led by letter: the controller asks by calls, a scripted converter answers
them one at a time, and the answers come when they come. At most one call or answer is on the way,
and which one it is says how far the conversation has come. -/
namespace KeySheet.Conversion

open Backend (Call Service)
open Desk (reply)

namespace Script

/-- A service that answers as the script does in a world, and as another one where that has nothing
to say. -/
def service (script : Script) (w : World) (others : Service Id) : Service Id :=
  { others with
    createTask := fun source => (script.unstopped.create source w).1
    taskStatus := fun task => (script.unstopped.status task w).1
    stopTask := fun task => (script.unstopped.stop task w).1 }

/-- The world after a call. -/
def account (script : Script) (w : World) : Call → World
  | .createTask source => (script.unstopped.create source w).2
  | .taskStatus task => (script.unstopped.status task w).2
  | .stopTask task => (script.unstopped.stop task w).2
  | _ => w

theorem account_other (script : Script) (w : World) {call : Call}
    (other : call.isConversion = false) : script.account w call = w := by
  cases call with
  | createTask | taskStatus | stopTask => cases other
  | _ => rfl

end Script

/-- One task was created from the source, and so many reports on it were asked for. -/
structure World.Asked (w : World) (source : Media.Source) (task : TaskId) (n : Nat) : Prop where
  created : w.created = [source]
  polled : w.polled = List.replicate n task
  stopped : w.stopped = []

namespace Controller

/-- The task is polled, and the reports so far have left the verdict open. -/
structure Underway (c : Controller) (script : Script) (task : TaskId) : Prop where
  create : script.create = .ok task
  heeding : c.isHeeding task
  resetAt : c.resetAt = none
  left : c.attempts < 300
  verdict : script.verdict = script.verdictFrom c.attempts (300 - c.attempts)

/-- How far a conversation has come, by the calls that wait for the converter and the events that
wait for the controller. -/
inductive Stage (script : Script) (source : Media.Source) (c : Controller) (w : World) :
    List Call → List Event → Prop
  | creating : c.phase = .submitting → c.Submits →
      w.created = [] → w.polled = [] → w.stopped = [] → Stage script source c w [.createTask source] []
  | created : c.phase = .submitting → c.Submits →
      w.created = [source] → w.polled = [] → w.stopped = [] →
      Stage script source c w [] [.created script.create]
  | waiting {task} : c.Underway script task → w.Asked source task c.attempts →
      Stage script source c w [] []
  | asking {task} : c.Underway script task → c.awaiting = true → w.Asked source task c.attempts →
      Stage script source c w [.taskStatus task] []
  | answered {task} : c.Underway script task → c.awaiting = true →
      w.Asked source task (c.attempts + 1) →
      Stage script source c w [] [.status task (script.status c.attempts)]

/-- The conversation is at its end, and it is the end of the script. -/
structure Concluded (script : Script) (source : Media.Source) (c : Controller) (w : World) :
    Prop where
  phase : c.phase = script.verdict.2.phase
  attempts : c.attempts = script.verdict.1
  created : w.created = [source]
  polled : w.polled = (match script.create with
    | .ok task => List.replicate script.verdict.1 task
    | .error _ => [])
  stopped : w.stopped = []

variable {script : Script} {source : Media.Source} {c : Controller} {w : World} {task : TaskId}
  {calls : List Call} {events : List Event}

theorem Stage.open (h : Stage script source c w calls events) : c.phase.isTerminal = false := by
  cases h with
  | creating phase | created phase => rw [phase]; rfl
  | waiting underway | asking underway | answered underway => rw [underway.heeding.1]; rfl

theorem Stage.served {call : Call} (h : Stage script source c w (call :: calls) events)
    (others : Service Id) :
    ∃ event, (Id.run (reply (script.service w others) call)).event? = some event ∧
      Stage script source c (script.account w call) calls (events ++ [event]) := by
  cases h with
  | creating phase submits created polled stopped =>
      refine ⟨.created script.create, rfl, .created phase submits ?_ polled stopped⟩
      exact congrArg (· ++ [source]) created
  | @asking task underway awaiting asked =>
      have count : w.polled.length = c.attempts := by rw [asked.polled, List.length_replicate]
      refine ⟨.status task (script.status c.attempts), ?_, .answered underway awaiting ?_⟩
      · rw [← count]
        rfl
      · refine ⟨asked.created, ?_, asked.stopped⟩
        rw [List.replicate_succ', ← asked.polled]
        rfl

/-- The clock may have the next report asked for, and does nothing else. -/
theorem Stage.tick (h : Stage script source c w calls events) (now : Time) :
    Stage script source (c.step now .tick).1 w
        (calls ++ ((c.step now .tick).2.bind Effect.call?).toList) events ∧
      ∀ e ∈ (c.step now .tick).2, e.call? ≠ none := by
  have turn := step_turn c now .tick
  generalize (c.step now .tick).1 = next at turn ⊢
  generalize (c.step now .tick).2 = effect at turn ⊢
  cases turn with
  | ignored =>
      refine ⟨?_, by simp⟩
      rw [Option.bind_none, Option.toList_none, List.append_nil]
      exact h
  | reset due =>
      have never : c.resetAt = none := by
        cases h with
        | creating _ submits | created _ submits => exact submits.resetAt
        | waiting underway | asking underway | answered underway => exact underway.resetAt
      rw [never] at due
      cases due
  | @poll task _ heeding quiet =>
      refine ⟨?_, by simp [Effect.call?]⟩
      cases h with
      | creating phase | created phase => cases phase.symm.trans heeding.1
      | asking _ awaiting | answered _ awaiting => cases quiet.symm.trans awaiting
      | waiting underway asked =>
          obtain rfl : task = _ := Option.some.inj (heeding.2.1.symm.trans underway.heeding.2.1)
          exact .asking { underway with } rfl asked

theorem Underway.verdictFrom (h : c.Underway script task) :
    script.verdict = script.verdictFrom c.attempts (300 - (c.attempts + 1) + 1) := by
  have left := h.left
  rw [h.verdict, show 300 - (c.attempts + 1) + 1 = 300 - c.attempts by omega]

/-- The report that was asked for leaves the verdict open, or it is the one that decides. -/
theorem Underway.heard (h : c.Underway script task) (asked : w.Asked source task (c.attempts + 1))
    (now : Time) :
    ∃ next effect, Turn c now (.status task (script.status c.attempts)) next effect ∧
      ((effect = none ∧ Stage script source next w [] []) ∨
        (effect = script.verdict.2.effect? ∧ Concluded script source next w)) := by
  have concluded {next : Controller} {outcome : Outcome}
      (verdict : script.verdict = (c.attempts + 1, outcome)) (phase : next.phase = outcome.phase)
      (attempts : next.attempts = c.attempts + 1) : Concluded script source next w := by
    refine ⟨by rw [phase, verdict], by rw [attempts, verdict], asked.created, ?_, asked.stopped⟩
    rw [asked.polled, h.create, verdict]
  have verdict := h.verdictFrom
  cases decides : Script.decision (script.status c.attempts) with
  | some outcome =>
      rw [Script.verdictFrom_decided decides] at verdict
      obtain ⟨next, turn, phase, attempts⟩ := report_decided h.heeding decides now
      exact ⟨next, _, turn, .inr ⟨by rw [verdict], concluded verdict phase attempts⟩⟩
  | none =>
      rw [Script.verdictFrom_undecided decides] at verdict
      by_cases spent : c.attempts + 1 = 300
      · have timeout : script.verdict = (c.attempts + 1, .error .timeout) := by
          rw [verdict, Nat.sub_eq_zero_of_le (Nat.le_of_eq spent.symm)]
          rfl
        obtain ⟨next, turn, phase, attempts⟩ := report_timedOut h.heeding decides spent now
        exact ⟨next, _, turn, .inr ⟨by rw [timeout]; rfl, concluded timeout phase attempts⟩⟩
      · have undecided := (Script.decision_eq_none_iff _).mp decides
        have left : c.attempts + 1 < 300 := Nat.lt_of_le_of_ne h.left spent
        refine ⟨_, _, .undecided h.heeding undecided left, .inl ⟨rfl, .waiting ?_ asked⟩⟩
        exact ⟨h.create, h.heeding, h.resetAt, left, verdict⟩

/-- What comes for the controller leads the conversation on, or to its end. -/
theorem Stage.heard {event : Event} (h : Stage script source c w calls (event :: events))
    (now : Time) :
    ∃ next effect, Turn c now event next effect ∧
      ((effect = none ∧ Stage script source next w calls events) ∨
        (effect = script.verdict.2.effect? ∧ Concluded script source next w)) := by
  cases h with
  | created phase submits created polled stopped =>
      cases create : script.create with
      | ok task =>
          refine ⟨_, _, .created phase, .inl ⟨rfl, .waiting ⟨create, ?_, submits.resetAt, ?_, ?_⟩ ?_⟩⟩
          · exact ⟨rfl, rfl, submits.heeding⟩
          · exact submits.attempts ▸ Nat.zero_lt_succ 299
          · rw [submits.attempts, Script.verdict, create]
          · refine ⟨created, ?_, stopped⟩
            rw [submits.attempts]
            exact polled
      | error e =>
          have verdict : script.verdict = (0, .error (.start e.userMessage)) := by
            rw [Script.verdict, create]
          refine ⟨_, _, .refused phase, .inr ⟨by rw [verdict]; rfl, ?_⟩⟩
          refine ⟨by rw [verdict]; rfl, by rw [verdict]; exact submits.attempts, created, ?_, stopped⟩
          rw [create]
          exact polled
  | answered underway _ asked => exact underway.heard asked now

end Controller

end KeySheet.Conversion
