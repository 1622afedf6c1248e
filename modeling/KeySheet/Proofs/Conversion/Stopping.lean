import KeySheet.Proofs.Conversion.Coherence

/-! A stop wins over all that is still under way. Once it is asked for, a task is polled no more and
ends as cancelled when the converter has answered the wish to stop, whatever it has answered; no
report, tick or key comes in between, and only time ends the end. -/
namespace KeySheet.Conversion.Controller

/-- The controller after each event, with what it asks for. -/
def trace (c : Controller) : List (Time × Event) → List (Controller × Option Effect)
  | [] => []
  | (now, event) :: rest => c.step now event :: (c.step now event).1.trace rest

theorem trace_append (c : Controller) (first rest : List (Time × Event)) :
    c.trace (first ++ rest) = c.trace first ++ (c.run first).1.trace rest := by
  induction first generalizing c with
  | nil => rfl
  | cons head first ih => simp only [List.cons_append, trace, run_cons, ih]

theorem effects_run (c : Controller) (events : List (Time × Event)) :
    (c.run events).2 = (c.trace events).flatMap (fun s => s.2.toList) := by
  induction events generalizing c with
  | nil => rfl
  | cons head rest ih => rw [run_cons, ih, trace, List.flatMap_cons]

/-- What every turn keeps while its event is one of some kind, and what it asks for then, holds of
every step of a trace of such events and of the end of their run. -/
theorem trace_keeps {P : Controller → Prop} (allowed : Time × Event → Prop)
    (keeps : ∀ {c now event next effect}, P c → allowed (now, event) →
      Turn c now event next effect → P next ∧ effect = none)
    {c : Controller} (h : P c) {events : List (Time × Event)} (all : ∀ e ∈ events, allowed e) :
    (∀ s ∈ c.trace events, P s.1 ∧ s.2 = none) ∧ P (c.run events).1 := by
  induction events generalizing c with
  | nil => exact ⟨by simp [trace], h⟩
  | cons head rest ih =>
      obtain ⟨now, later⟩ := List.forall_mem_cons.mp all
      obtain ⟨next, quiet⟩ := keeps h now (step_turn c head.1 head.2)
      obtain ⟨steps, last⟩ := ih next later
      exact ⟨List.forall_mem_cons.mpr ⟨⟨next, quiet⟩, steps⟩, last⟩

/-- A stop of the task was asked for, and has not been answered. -/
structure IsStopping (task : TaskId) (c : Controller) : Prop where
  polling : c.phase = .polling
  task : c.task = some task
  stopping : c.stopping = true
  resetAt : c.resetAt = none

/-- The task was cancelled at a time, and that is still shown. -/
structure IsCancelled (ended : Time) (c : Controller) : Prop where
  phase : c.phase = .cancelled
  resetAt : c.resetAt = some (ended + resetDelay)

variable {c next : Controller} {now ended : Time} {event : Event} {effect : Option Effect}
  {task : TaskId}

theorem isStopping_stop (coherent : c.Coherent) (heeding : c.isHeeding task) (now : Time) :
    (c.step now .stop).2 = some (.cancelTask task) ∧ IsStopping task (c.step now .stop).1 := by
  have turn : Turn c now .stop _ _ := .stop heeding
  rw [turn.step_eq]
  exact ⟨rfl, heeding.1, heeding.2.1, rfl, (coherent.polls heeding.1).resetAt⟩

/-- Nothing but the answer to the wish to stop moves a task that is being stopped. -/
theorem IsStopping.turn (h : IsStopping task c) (unanswered : ∀ answer, event ≠ .stopped task answer)
    (turn : Turn c now event next effect) : IsStopping task next ∧ effect = none := by
  have deaf (other : TaskId) : ¬ c.isHeeding other := by
    intro heeding
    simpa [h.stopping] using heeding.2.2
  cases turn with
  | ignored => exact ⟨h, rfl⟩
  | muted => exact ⟨⟨h.polling, h.task, h.stopping, h.resetAt⟩, rfl⟩
  | @stopped other answer _ same =>
      obtain rfl : other = task := Option.some.inj (same.symm.trans h.task)
      exact absurd rfl (unanswered answer)
  | start idle => simp [h.polling] at idle
  | created submitting | refused submitting => simp [h.polling] at submitting
  | completed heeding | cancelled heeding | failed heeding | undecided heeding | timedOut heeding
    | stop heeding => exact absurd heeding (deaf _)
  | reset due => simp [h.resetAt, isDue] at due
  | poll _ heeding => exact absurd heeding (deaf _)

/-- The end of a cancelled task outlasts every event but a tick that is late enough. -/
theorem IsCancelled.turn (h : IsCancelled ended c) (early : event = .tick → now < ended + resetDelay)
    (turn : Turn c now event next effect) : IsCancelled ended next ∧ effect = none := by
  have deaf (other : TaskId) : ¬ c.isHeeding other := by
    intro heeding
    simpa [h.phase] using heeding.1
  cases turn with
  | ignored => exact ⟨h, rfl⟩
  | reset due =>
      simp only [h.resetAt, isDue, decide_eq_true_eq] at due
      exact absurd (early rfl) (Nat.not_lt_of_le due)
  | start idle => simp [h.phase] at idle
  | created submitting | refused submitting => simp [h.phase] at submitting
  | muted polling | stopped polling => simp [h.phase] at polling
  | completed heeding | cancelled heeding | failed heeding | undecided heeding | timedOut heeding
    | stop heeding => exact absurd heeding (deaf _)
  | poll _ heeding => exact absurd heeding (deaf _)

theorem IsStopping.answered (h : IsStopping task c) (now : Time)
    (answer : Except Backend.Failure Unit) :
    c.step now (.stopped task answer) = (c.cancel now, none) :=
  Turn.step_eq (.stopped h.polling h.task)

theorem isCancelled_cancel (c : Controller) (now : Time) : IsCancelled now (c.cancel now) :=
  ⟨rfl, rfl⟩

theorem IsCancelled.reset (h : IsCancelled ended c) (late : ended + resetDelay ≤ now) :
    c.step now .tick = (c.reset, none) := by
  have due : isDue c.resetAt now = true := by simpa [h.resetAt, isDue] using late
  exact Turn.step_eq (.reset due)

/-- A stop of the task at hand asks the converter to stop it, and then wins: until the converter
answers nothing is asked for and the phase stays, its answer cancels the task, and half a second
later a tick brings the controller to rest. What the answer says makes no difference to any step. -/
theorem run_stop_wins (before : List (Time × Event)) (task : TaskId) (asked : Time)
    (polling : (run {} before).1.phase = .polling) (same : (run {} before).1.task = some task)
    (heeding : (run {} before).1.stopping = false) (meanwhile : List (Time × Event))
    (unanswered : ∀ e ∈ meanwhile, ∀ answer, e.2 ≠ .stopped task answer) (told : Time) :
    let stopping := (run {} before).1.step asked .stop
    let cancelled := fun answer =>
      (stopping.1.run meanwhile).1.step told (.stopped task answer)
    stopping.2 = some (.cancelTask task) ∧ stopping.1.phase = .polling ∧
    (∀ s ∈ stopping.1.trace meanwhile, s.1.phase = .polling ∧ s.2 = none) ∧
    (∀ answer, (cancelled answer).2 = none ∧ (cancelled answer).1.phase = .cancelled ∧
      (cancelled answer).1.gauge.message = "Cancelled" ∧ (cancelled answer).1.buttons.AtRest ∧
      ∀ after : List (Time × Event), (∀ e ∈ after, e.2 = .tick → e.1 < told + 500) →
        (∀ s ∈ (cancelled answer).1.trace after, s.1.phase = .cancelled ∧ s.2 = none) ∧
        ∀ late, told + 500 ≤ late →
          let rest := ((cancelled answer).1.run after).1.step late .tick
          rest.1.phase = .idle ∧ rest.2 = none) ∧
    ∀ answer other after,
      trace {} (before ++ (asked, .stop) :: meanwhile ++ (told, .stopped task answer) :: after) =
        trace {} (before ++ (asked, .stop) :: meanwhile ++ (told, .stopped task other) :: after) := by
  intro stopping cancelled
  obtain ⟨cancels, stops⟩ :=
    isStopping_stop (coherent_fresh.run before) ⟨polling, same, heeding⟩ asked
  obtain ⟨quiet, stops'⟩ :=
    trace_keeps (fun e => ∀ answer, e.2 ≠ .stopped task answer) IsStopping.turn stops unanswered
  refine ⟨cancels, stops.polling, ?_, ?_, ?_⟩
  · intro s member
    exact ⟨(quiet s member).1.polling, (quiet s member).2⟩
  · intro answer
    have ends : cancelled answer = ((stopping.1.run meanwhile).1.cancel told, none) :=
      stops'.answered told answer
    rw [ends]
    refine ⟨rfl, rfl, rfl, Buttons.atRest_reset, ?_⟩
    intro after early
    obtain ⟨still, last⟩ :=
      trace_keeps (fun e => e.2 = .tick → e.1 < told + 500) IsCancelled.turn
        (isCancelled_cancel _ told) early
    refine ⟨fun s member => ⟨(still s member).1.phase, (still s member).2⟩, ?_⟩
    intro late due
    rw [last.reset due]
    exact ⟨rfl, rfl⟩
  · intro answer other after
    -- The two runs part at the answer, and are together again behind it.
    simp only [trace_append]
    rfl

/-- The stop comes while a poll is under way, whose report says that the conversion is complete. -/
theorem run_stop_wins_in_flight :
    let before : List (Time × Event) :=
      [(0, .start ⟨"u", .cuda⟩ .mp3), (10, .created (.ok "t")), (2010, .tick)]
    let meanwhile : List (Time × Event) :=
      [(2200, .status "t" (.ok { status := .completed })), (4500, .tick), (4600, .stop),
        (4700, .stopped "s" (.ok ()))]
    let polled := (run {} before).1
    let stopping := (polled.step 2100 .stop).1
    polled.phase = .polling ∧ polled.task = some "t" ∧ polled.stopping = false ∧
    polled.awaiting = true ∧ (∀ e ∈ meanwhile, ∀ answer, e.2 ≠ .stopped "t" answer) ∧
    (∀ s ∈ stopping.trace meanwhile, s.1.phase = .polling ∧ s.2 = none) ∧
    ∀ answer,
      let cancelled := ((stopping.run meanwhile).1.step 5000 (.stopped "t" answer)).1
      cancelled.phase = .cancelled ∧
      (∀ s ∈ cancelled.trace [(5499, .tick), (5600, .stop)], s.1.phase = .cancelled) ∧
      (((cancelled.run [(5499, .tick), (5600, .stop)]).1.step 5500 .tick).1).phase = .idle := by
  intro before meanwhile polled stopping
  have unanswered : ∀ e ∈ meanwhile, ∀ answer, e.2 ≠ .stopped "t" answer := by simp [meanwhile]
  obtain ⟨-, -, quiet, ends, -⟩ :=
    run_stop_wins before "t" 2100 rfl rfl rfl meanwhile unanswered 5000
  refine ⟨rfl, rfl, rfl, rfl, unanswered, quiet, ?_⟩
  intro answer
  obtain ⟨-, cancelled, -, -, stays⟩ := ends answer
  obtain ⟨still, rests⟩ := stays [(5499, .tick), (5600, .stop)] (by simp)
  exact ⟨cancelled, fun s member => (still s member).1, (rests 5500 (Nat.le_refl _)).1⟩

end KeySheet.Conversion.Controller
