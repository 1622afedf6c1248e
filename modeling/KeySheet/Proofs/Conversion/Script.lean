import KeySheet.Conversion.Session
import KeySheet.Proofs.Conversion.Turn

/-! A converter that answers from a script, on a clock that moves by sleeping and by its answers
only. The world keeps account of what a session asks of it, and the script alone says how a
session without a wish to stop has to end. -/
namespace KeySheet.Conversion

/-- What the converter will say, and how long each of its answers takes. -/
structure Script where
  create : Except Backend.Failure TaskId
  /-- The answers to the questions for the status, one after another. -/
  status : Nat → Except Backend.Failure Media.StatusReport
  stop : Except Backend.Failure Unit := .ok ()
  latency : Nat := 0

/-- The clock, and all that was asked so far, the oldest first. -/
structure World where
  clock : Time := 0
  sleeps : Nat := 0
  created : List Media.Source := []
  polled : List TaskId := []
  stopped : List TaskId := []
  shown : List Gauge := []

namespace Outcome

/-- The phase that the controller ends in. -/
def phase : Outcome → Phase
  | .ok (some _) => .completed
  | .ok none => .cancelled
  | .error why => .failed why

/-- What the owner of the controller has to do at the end. -/
def effect? : Outcome → Option Effect
  | .ok (some result) => some (.completed result)
  | .ok none => none
  | .error why => some (.alert why)

theorem phase_isTerminal (outcome : Outcome) : outcome.phase.isTerminal = true := by
  rcases outcome with why | _ | result <;> rfl

end Outcome

namespace World

def calls (w : World) : Nat := w.created.length + w.polled.length + w.stopped.length

end World

namespace Script

/-- The script as a host. Whether a stop is wanted may hang on all that has happened. -/
def host (script : Script) (wanted : World → Bool) : Host (StateM World) where
  now w := (w.clock, w)
  sleep n w := ((), { w with clock := w.clock + n, sleeps := w.sleeps + 1 })
  create source w :=
    (script.create, { w with clock := w.clock + script.latency, created := w.created ++ [source] })
  status task w :=
    (script.status w.polled.length,
      { w with clock := w.clock + script.latency, polled := w.polled ++ [task] })
  stop task w :=
    (script.stop, { w with clock := w.clock + script.latency, stopped := w.stopped ++ [task] })
  stopWanted w := (wanted w, w)
  report gauge w := ((), { w with shown := w.shown ++ [gauge] })

def unstopped (script : Script) : Host (StateM World) := script.host (fun _ => false)

/-- The outcome that one report decides, if it decides any. -/
def decision : Except Backend.Failure Media.StatusReport → Option Outcome
  | .ok report => match report.status with
      | .completed => some (.ok (some report.result))
      | .cancelled => some (.ok none)
      | .error => some (.error (.backend (report.error.getD "Conversion failed")))
      | .pending | .processing | .other => none
  | .error _ => none

theorem decision_eq_none_iff (answer : Except Backend.Failure Media.StatusReport) :
    decision answer = none ↔ isDecisive answer = false := by
  cases answer with
  | error e => simp [decision, isDecisive]
  | ok report => cases status : report.status <;> simp [decision, isDecisive, status]

/-- The first decision among some answers in a row, with the number of answers up to it; without
one, patience ends with the last of them. -/
def verdictFrom (script : Script) (heard left : Nat) : Nat × Outcome :=
  ((List.range' heard left).findSome? fun k =>
    (decision (script.status k)).map fun outcome => (k + 1, outcome)).getD
      (heard + left, .error .timeout)

/-- How often the status is asked for, and how the conversion ends. -/
def verdict (script : Script) : Nat × Outcome :=
  match script.create with
  | .error e => (0, .error (.start e.userMessage))
  | .ok _ => script.verdictFrom 0 300

theorem verdictFrom_decided {script : Script} {heard left : Nat} {outcome : Outcome}
    (h : decision (script.status heard) = some outcome) :
    script.verdictFrom heard (left + 1) = (heard + 1, outcome) := by
  simp [verdictFrom, List.range'_succ, h]

theorem verdictFrom_undecided {script : Script} {heard left : Nat}
    (h : decision (script.status heard) = none) :
    script.verdictFrom heard (left + 1) = script.verdictFrom (heard + 1) left := by
  simp only [verdictFrom, List.range'_succ, List.findSome?_cons, h, Option.map_none]
  rw [Nat.add_right_comm heard 1 left, Nat.add_assoc]

/-- All reports before the last one decide nothing; the last one decides, unless patience ends
with it. -/
theorem verdictFrom_last (script : Script) (heard left : Nat) :
    ∃ k, (script.verdictFrom heard (left + 1)).1 = k + 1 ∧ heard ≤ k ∧ k ≤ heard + left ∧
      (∀ j, heard ≤ j → j < k → decision (script.status j) = none) ∧
      (decision (script.status k) = some (script.verdictFrom heard (left + 1)).2 ∨
        decision (script.status k) = none ∧ k = heard + left ∧
          (script.verdictFrom heard (left + 1)).2 = .error .timeout) := by
  induction left generalizing heard with
  | zero =>
      cases decides : decision (script.status heard) with
      | some outcome =>
          rw [verdictFrom_decided decides]
          exact ⟨heard, rfl, Nat.le_refl _, Nat.le_refl _, by omega, .inl decides⟩
      | none =>
          rw [verdictFrom_undecided decides]
          exact ⟨heard, rfl, Nat.le_refl _, Nat.le_refl _, by omega, .inr ⟨decides, rfl, rfl⟩⟩
  | succ left ih =>
      cases decides : decision (script.status heard) with
      | some outcome =>
          rw [verdictFrom_decided decides]
          exact ⟨heard, rfl, Nat.le_refl _, Nat.le_add_right _ _, by omega, .inl decides⟩
      | none =>
          obtain ⟨k, count, above, below, silent, last⟩ := ih (heard + 1)
          rw [verdictFrom_undecided decides]
          refine ⟨k, count, by omega, by omega, fun j from_ before => ?_, ?_⟩
          · rcases Nat.eq_or_lt_of_le from_ with rfl | later
            · exact decides
            · exact silent j later before
          · rcases last with decided | ⟨undecided, spent, late⟩
            · exact .inl decided
            · exact .inr ⟨undecided, by omega, late⟩

end Script

namespace Controller

variable {c : Controller} {task : TaskId} {answer : Except Backend.Failure Media.StatusReport}

theorem report_decided {outcome : Outcome} (h : c.isHeeding task)
    (decides : Script.decision answer = some outcome) (now : Time) :
    ∃ next, Turn c now (.status task answer) next outcome.effect? ∧ next.phase = outcome.phase ∧
      next.attempts = c.attempts + 1 := by
  cases answer with
  | error e => cases decides
  | ok report =>
      cases status : report.status with
      | completed =>
          simp only [Script.decision, status, Option.some.injEq] at decides
          subst decides
          exact ⟨_, .completed h status, rfl, rfl⟩
      | cancelled =>
          simp only [Script.decision, status, Option.some.injEq] at decides
          subst decides
          exact ⟨_, .cancelled h status, rfl, rfl⟩
      | error =>
          simp only [Script.decision, status, Option.some.injEq] at decides
          subst decides
          exact ⟨_, .failed h status, rfl, rfl⟩
      | pending | processing | other => simp [Script.decision, status] at decides

theorem report_timedOut (h : c.isHeeding task) (silent : Script.decision answer = none)
    (spent : c.attempts + 1 = 300) (now : Time) :
    ∃ next, Turn c now (.status task answer) next (some (.alert .timeout)) ∧
      next.phase = .failed .timeout ∧ next.attempts = c.attempts + 1 := by
  have undecided := (Script.decision_eq_none_iff answer).mp silent
  exact ⟨_, .timedOut h undecided (Nat.le_of_eq spent.symm), rfl, rfl⟩

end Controller

end KeySheet.Conversion
