import Mathlib.Data.List.Basic
import KeySheet.Proofs.Conversion.EffectOrder

/-! The events of a conversion, each with the state in which it comes. Of some the controller takes
notice: the creation of its task, the reports on it, the questions it asks. What it may do next is
said by what it has taken notice of before. -/
namespace KeySheet.Conversion

open Media (StatusReport)

/-- An event in the state in which it comes. -/
structure Incident where
  state : Controller
  now : Time
  event : Event

namespace Incident

def next (i : Incident) : Controller := (i.state.step i.now i.event).1

def effect (i : Incident) : Option Effect := (i.state.step i.now i.event).2

/-- The report that is accepted: on the task that is polled, while it is not being stopped. -/
def report? (i : Incident) : Option (Except Backend.Failure StatusReport) :=
  match i.event with
  | .status task answer =>
      if i.state.phase = .polling ∧ i.state.task = some task ∧ i.state.stopping = false then
        some answer
      else none
  | _ => none

def isReport (i : Incident) : Bool := i.report?.isSome

/-- The task that is accepted as created. -/
def created? (i : Incident) : Option TaskId :=
  match i.event with
  | .created (.ok task) => if i.state.phase = .submitting then some task else none
  | _ => none

def isFetch (i : Incident) : Bool := i.effect.any Effect.isFetch

/-- Every question in the past was followed by a report on its task. -/
def Answered (past : List Incident) : Prop :=
  ∀ before i after task, past = before ++ i :: after → i.effect = some (.fetchStatus task) →
    ∃ j ∈ after, ∃ answer, j.event = .status task answer

/-- The time of the last accepted report, or of the creation of the task if there is none. -/
def lastHeard (past : List Incident) : Option Time :=
  ((past.filter isReport).getLast?.or (past.filter (·.created?.isSome)).getLast?).map (·.now)

/-- The three hundredth accepted report, and it decides nothing. -/
def EndsPatience (past : List Incident) (i : Incident) : Prop :=
  ∃ answer, i.report? = some answer ∧ isDecisive answer = false ∧ past.countP isReport = 299

/-- What an event of a conversion may lead to, by what was before it. -/
structure Disciplined (past : List Incident) (i : Incident) : Prop where
  /-- One task was created, and only that is asked for and stopped. -/
  task : ∀ task, i.effect = some (.fetchStatus task) ∨ i.effect = some (.cancelTask task) →
    past.filterMap created? = [task]
  answered : ∀ task, i.effect = some (.fetchStatus task) → Answered past
  spaced : ∀ task, i.effect = some (.fetchStatus task) →
    ∃ heard, lastHeard past = some heard ∧ heard + 2000 ≤ i.now
  told : i.effect = some (.alert .timeout) ↔ EndsPatience past i
  timedOut : (i.state.phase ≠ .failed .timeout ∧ i.next.phase = .failed .timeout) ↔
    EndsPatience past i
  /-- A report that decides has its way, the three hundredth like any other. -/
  completed : ∀ report, i.report? = some (.ok report) → report.status = .completed →
    i.next.phase = .completed ∧ i.effect = some (.completed report.result)
  cancelled : ∀ report, i.report? = some (.ok report) → report.status = .cancelled →
    i.next.phase = .cancelled
  failed : ∀ report, i.report? = some (.ok report) → report.status = .error →
    ∃ text, i.next.phase = .failed (.backend text)

variable {past : List Incident} {i : Incident}

theorem report_heeding {c : Controller} {now : Time} {task : TaskId} (h : c.isHeeding task)
    (answer : Except Backend.Failure StatusReport) :
    report? ⟨c, now, .status task answer⟩ = some answer := if_pos h

theorem report_eq_some {answer : Except Backend.Failure StatusReport}
    (h : i.report? = some answer) :
    ∃ task, i.event = .status task answer ∧ i.state.isHeeding task := by
  obtain ⟨c, now, event⟩ := i
  cases event with
  | status task given =>
      simp only [report?, Option.ite_none_right_eq_some, Option.some.injEq] at h
      obtain ⟨heeding, rfl⟩ := h
      exact ⟨task, rfl, heeding⟩
  | _ => cases h

theorem lastHeard_report (accepted : i.isReport = true) : lastHeard (past ++ [i]) = some i.now := by
  simp [lastHeard, accepted]

theorem lastHeard_created (none : past.countP isReport = 0) (noReport : i.isReport = false)
    (created : i.created?.isSome = true) : lastHeard (past ++ [i]) = some i.now := by
  have noReports : past.filter isReport = [] := List.filter_eq_nil_iff.mpr (List.countP_eq_zero.mp none)
  simp [lastHeard, noReports, noReport, created]

theorem lastHeard_other (noReport : i.report? = none) (notCreated : i.created? = none) :
    lastHeard (past ++ [i]) = lastHeard past := by
  simp [lastHeard, isReport, noReport, notCreated]

/-- The last incident is the one in question, or it comes behind it. -/
theorem split_concat {before after : List Incident} {j : Incident}
    (split : past ++ [i] = before ++ j :: after) :
    (j = i ∧ after = []) ∨ ∃ rest, after = rest ++ [i] ∧ past = before ++ j :: rest := by
  obtain rfl | ⟨rest, last, rfl⟩ := List.eq_nil_or_concat' after
  · obtain ⟨-, same⟩ := List.append_inj' split rfl
    exact .inl ⟨(List.singleton_inj.mp same).symm, rfl⟩
  · rw [← List.cons_append, ← List.append_assoc] at split
    obtain ⟨same, ends⟩ := List.append_inj' split rfl
    exact .inr ⟨rest, congrArg (rest ++ ·) ends.symm, same⟩

theorem Answered.other (h : Answered past) (noFetch : ∀ task, i.effect ≠ some (.fetchStatus task)) :
    Answered (past ++ [i]) := by
  intro before j after task split asks
  obtain ⟨rfl, -⟩ | ⟨rest, rfl, same⟩ := split_concat split
  · exact absurd asks (noFetch task)
  · obtain ⟨k, member, reported⟩ := h before j rest task same asks
    exact ⟨k, List.mem_append_left _ member, reported⟩

theorem answered_by {task : TaskId} {answer : Except Backend.Failure StatusReport}
    (own : ∀ j ∈ past, ∀ asked, j.effect = some (.fetchStatus asked) → asked = task)
    (reports : i.event = .status task answer)
    (noFetch : ∀ task, i.effect ≠ some (.fetchStatus task)) : Answered (past ++ [i]) := by
  intro before j after asked split asks
  obtain ⟨rfl, -⟩ | ⟨rest, rfl, rfl⟩ := split_concat split
  · exact absurd asks (noFetch asked)
  · obtain rfl := own j (by simp) asked asks
    exact ⟨i, by simp, answer, reports⟩

end Incident

end KeySheet.Conversion
