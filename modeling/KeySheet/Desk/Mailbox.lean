import KeySheet.Backend.Call

/-! The way between the desk and the worker that makes its calls. Calls wait in order, the worker
takes one at a time, and its answers wait in order until the desk takes them up; so an answer never
overtakes an earlier one. -/
namespace KeySheet.Desk

open Backend (Call Answer Service)

structure Mailbox where
  /-- Calls that the worker has not taken up, the oldest first. -/
  calls : List Call := []
  /-- Answers that the desk has not taken up, the oldest first. -/
  answers : List Answer := []
  /-- How many calls the desk has no answer to. -/
  inFlight : Nat := 0

namespace Mailbox

def submit (m : Mailbox) (call : Call) : Mailbox :=
  { m with calls := m.calls ++ [call], inFlight := m.inFlight + 1 }

/-- The oldest call gives way to an answer. -/
def answered (m : Mailbox) (answer : Answer) : Mailbox :=
  { m with calls := m.calls.drop 1, answers := m.answers ++ [answer] }

/-- The worker's step: it carries out the oldest call. Nothing happens without a call. -/
def serve {μ : Type → Type} [Monad μ] (service : Service μ) (m : Mailbox) : μ Mailbox :=
  match m.calls.head? with
  | none => pure m
  | some call => m.answered <$> call.perform service

/-- As many steps as there are calls. -/
def serveAll {μ : Type → Type} [Monad μ] (service : Service μ) (m : Mailbox) : μ Mailbox :=
  m.calls.foldlM (fun m _ => m.serve service) m

/-- Without the oldest answer, which the desk takes up. -/
def taken (m : Mailbox) : Mailbox :=
  { m with answers := m.answers.drop 1, inFlight := m.inFlight - 1 }

/-- The desk waits for an answer. -/
def isBusy (m : Mailbox) : Bool := 0 < m.inFlight

/-- The calls and answers that are on the way. -/
def pending (m : Mailbox) : Nat := m.calls.length + m.answers.length

theorem pending_submit (m : Mailbox) (call : Call) : (m.submit call).pending = m.pending + 1 := by
  simp only [submit, pending, List.length_append, List.length_singleton]
  omega

/-- An answer takes the place of its call. -/
theorem pending_answered {m : Mailbox} (h : m.calls ≠ []) (answer : Answer) :
    (m.answered answer).pending = m.pending := by
  have := List.length_pos_iff.mpr h
  simp only [answered, pending, List.length_drop, List.length_append, List.length_singleton]
  omega

theorem pending_taken {m : Mailbox} (h : m.answers ≠ []) : m.taken.pending = m.pending - 1 := by
  have := List.length_pos_iff.mpr h
  simp only [taken, pending, List.length_drop]
  omega

end Mailbox

end KeySheet.Desk
