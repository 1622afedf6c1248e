import KeySheet.Proofs.Conversion.Coherence
import KeySheet.Proofs.Desk.Calls

/-! Which calls about the conversion can be without an answer in each phase. An event of the desk
itself adds the call that its effect asks for; the answer to the oldest of the calls takes that one
away, whatever the converter says in it. -/
namespace KeySheet

open Backend (Call)
open Conversion (Event Effect)

/-- Events that can come of the answer to a call. -/
inductive Backend.Call.Awaits : Call → Event → Prop
  | created {source answer} : Awaits (.createTask source) (.created answer)
  | status {task answer} : Awaits (.taskStatus task) (.status task answer)
  | stopped {task answer} : Awaits (.stopTask task) (.stopped task answer)

namespace Conversion.Controller

/-- The calls about the conversion that have no answer yet, the oldest first. -/
def Owes (c : Controller) (calls : List Call) : Prop :=
  match c.phase with
  | .idle | .completed | .cancelled | .failed _ => calls = []
  | .submitting => ∃ source, calls = [.createTask source]
  | .polling => ∃ task, c.task = some task ∧
      calls = (if c.awaiting then [.taskStatus task] else []) ++
        (if c.stopping then [.stopTask task] else [])

variable {c next : Controller} {now : Time} {event : Event} {effect : Option Effect}
  {calls : List Call} {task : TaskId}

theorem Owes.nothing (h : c.Owes calls) (still : c.phase.isRunning = false) : calls = [] := by
  unfold Owes at h
  split at h
  case h_5 phase | h_6 phase => simp [phase, Phase.isRunning] at still
  all_goals exact h

theorem Owes.creation {source : Media.Source} (h : c.Owes (.createTask source :: calls)) :
    c.phase = .submitting ∧ calls = [] := by
  unfold Owes at h
  split at h
  case h_5 phase =>
      obtain ⟨_, same⟩ := h
      exact ⟨phase, (List.cons.inj same).2⟩
  case h_6 =>
      obtain ⟨task, -, same⟩ := h
      cases awaiting : c.awaiting <;> cases stopping : c.stopping <;>
        simp [awaiting, stopping] at same
  all_goals cases h

theorem Owes.polling (h : c.Owes calls) (polling : c.phase = .polling) (same : c.task = some task) :
    calls = (if c.awaiting then [.taskStatus task] else []) ++
      (if c.stopping then [.stopTask task] else []) := by
  simp only [Owes, polling] at h
  obtain ⟨task', same', calls⟩ := h
  obtain rfl := Option.some.inj (same.symm.trans same')
  exact calls

theorem owes_polling (polling : c.phase = .polling) (same : c.task = some task)
    (h : calls = (if c.awaiting then [.taskStatus task] else []) ++
      (if c.stopping then [.stopTask task] else [])) : c.Owes calls := by
  simp only [Owes, polling]
  exact ⟨task, same, h⟩

theorem Owes.report (h : c.Owes (.taskStatus task :: calls)) :
    c.phase = .polling ∧ c.task = some task ∧ c.awaiting = true ∧
      calls = if c.stopping then [.stopTask task] else [] := by
  unfold Owes at h
  split at h
  case h_5 =>
      obtain ⟨_, same⟩ := h
      cases same
  case h_6 phase =>
      obtain ⟨task', same, calls'⟩ := h
      cases awaiting : c.awaiting with
      | false => cases stopping : c.stopping <;> simp [awaiting, stopping] at calls'
      | true =>
          simp only [awaiting, if_true, List.singleton_append] at calls'
          obtain ⟨head, rfl⟩ := List.cons.inj calls'
          cases head
          exact ⟨phase, same, rfl, rfl⟩
  all_goals cases h

theorem Owes.cancellation (h : c.Owes (.stopTask task :: calls)) :
    c.phase = .polling ∧ c.task = some task ∧ calls = [] := by
  unfold Owes at h
  split at h
  case h_5 =>
      obtain ⟨_, same⟩ := h
      cases same
  case h_6 phase =>
      obtain ⟨task', same, calls'⟩ := h
      cases awaiting : c.awaiting <;> cases stopping : c.stopping <;>
        simp [awaiting, stopping] at calls'
      obtain ⟨rfl, rfl⟩ := calls'
      exact ⟨phase, same, rfl⟩
  all_goals cases h

theorem Owes.own (h : c.Owes calls) (coherent : c.Coherent) (own : event.isOwn = true)
    (turn : Turn c now event next effect) :
    next.Owes (calls ++ (effect.bind Effect.call?).toList) := by
  cases turn with
  | ignored => simpa using h
  | start idle =>
      rw [h.nothing (by simp [idle, Phase.isRunning])]
      exact ⟨_, rfl⟩
  | stop heeding =>
      rw [h.polling heeding.1 heeding.2.1, heeding.2.2]
      refine owes_polling heeding.1 heeding.2.1 ?_
      simp only [Bool.false_eq_true, if_false, List.append_nil, if_true]
      rfl
  | reset due =>
      -- Only an end has a time for its reset, and an end owes nothing.
      have ended : c.phase.isRunning = false := by
        cases phase : c.phase with
        | submitting => simp [(coherent.submits phase).resetAt, isDue] at due
        | polling => simp [(coherent.polls phase).resetAt, isDue] at due
        | idle | completed | cancelled | failed => rfl
      rw [h.nothing ended]
      rfl
  | poll _ heeding quiet =>
      rw [h.polling heeding.1 heeding.2.1, quiet]
      refine owes_polling heeding.1 heeding.2.1 ?_
      simp only [heeding.2.2, Bool.false_eq_true, if_false, List.append_nil, if_true]
      rfl
  | _ => cases own

theorem Owes.answered {call : Call} (h : c.Owes (call :: calls)) (coherent : c.Coherent)
    (awaits : call.Awaits event) (turn : Turn c now event next effect) :
    next.Owes (calls ++ (effect.bind Effect.call?).toList) := by
  cases awaits with
  | created =>
      obtain ⟨submitting, rfl⟩ := h.creation
      have submits := coherent.submits submitting
      cases turn with
      | ignored other => exact absurd submitting other
      | created =>
          refine owes_polling rfl rfl ?_
          simp [submits.quiet, submits.heeding]
      | refused => rfl
  | @status task =>
      obtain ⟨polling, same, awaiting, rfl⟩ := h.report
      cases turn with
      | ignored other => exact absurd ⟨polling, same⟩ other
      | muted =>
          refine owes_polling polling same ?_
          simp
      | undecided heeding =>
          refine owes_polling polling same ?_
          simp [Controller.heard, heeding.2.2]
      | completed heeding | cancelled heeding | failed heeding | timedOut heeding =>
          rw [heeding.2.2]
          rfl
  | stopped =>
      obtain ⟨polling, same, rfl⟩ := h.cancellation
      cases turn with
      | ignored other => exact absurd ⟨polling, same⟩ other
      | stopped => rfl

end Conversion.Controller

end KeySheet
