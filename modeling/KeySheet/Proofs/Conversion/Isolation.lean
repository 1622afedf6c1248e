import Mathlib.Data.List.Forall2
import KeySheet.Proofs.Conversion.Stopping

/-! One conversion leaves nothing to the next. A controller that is back at rest keeps the text of its
bar and its count of reports, but nothing looks at them before the next start replaces them. So two
controllers at rest, whatever their pasts, are driven alike by the same events, and are equal from
the next start on. -/
namespace KeySheet.Conversion

theorem Buttons.AtRest.eq_reset {s : Buttons} (h : s.AtRest) : s = .reset := by
  cases s with
  | reset => rfl
  | converting a => cases h.1
  | stopping a => cases h.1

namespace Controller

/-- Two controllers that are equal, or both at rest. -/
inductive Meets : Controller → Controller → Prop
  | same {c} : Meets c c
  | rest {c d} : c.phase = .idle → d.phase = .idle → c.AtRest → d.AtRest → Meets c d

/-- What the two show of a conversion and what they ask for, all but the bar and the count. -/
structure ShowsAlike (s t : Controller × Option Effect) : Prop where
  effect : s.2 = t.2
  phase : s.1.phase = t.1.phase
  task : s.1.task = t.1.task
  stopping : s.1.stopping = t.1.stopping
  nextPoll : s.1.nextPoll = t.1.nextPoll
  resetAt : s.1.resetAt = t.1.resetAt
  deadline : s.1.nextDeadline = t.1.nextDeadline
  buttons : s.1.buttons = t.1.buttons

variable {c d : Controller} {now : Time} {event : Event}

theorem AtRest.nextDeadline (h : c.AtRest) : c.nextDeadline = none := by
  simp only [Controller.nextDeadline, h.nextPoll, h.resetAt, ite_self]
  rfl

/-- At rest only a start is heeded, and it sets every field. -/
theorem AtRest.turn (h : c.AtRest) (idle : c.phase = .idle) {next : Controller}
    {effect : Option Effect} (turn : Turn c now event next effect) :
    (next = c ∧ effect = none ∧ ∀ source button, event ≠ .start source button) ∨
      ∃ source button, event = .start source button ∧ next = started {} button ∧
        effect = some (.createTask source) := by
  cases turn with
  | ignored ignores =>
      refine .inl ⟨rfl, rfl, ?_⟩
      rintro source button rfl
      exact ignores idle
  | start => exact .inr ⟨_, _, rfl, rfl, rfl⟩
  | created submitting | refused submitting => simp [idle] at submitting
  | muted polling | stopped polling => simp [idle] at polling
  | completed heeding | cancelled heeding | failed heeding | undecided heeding | timedOut heeding
    | stop heeding => simp [isHeeding, idle] at heeding
  | reset due => simp [h.resetAt, isDue] at due
  | poll _ heeding => simp [isHeeding, idle] at heeding

theorem Meets.step (h : Meets c d) (now : Time) (event : Event) :
    (c.step now event).2 = (d.step now event).2 ∧
      Meets (c.step now event).1 (d.step now event).1 := by
  cases h with
  | same => exact ⟨rfl, .same⟩
  | rest idle idle' atRest atRest' =>
      obtain ⟨stays, none, noStart⟩ | ⟨source, button, rfl, starts, asks⟩ :=
        atRest.turn idle (step_turn c now event)
      · obtain ⟨stays', none', -⟩ | ⟨source, button, start, -⟩ :=
          atRest'.turn idle' (step_turn d now event)
        · rw [stays, stays', none, none']
          exact ⟨rfl, .rest idle idle' atRest atRest'⟩
        · exact absurd start (noStart source button)
      · obtain ⟨-, -, noStart⟩ | ⟨source', button', same, starts', asks'⟩ :=
          atRest'.turn idle' (step_turn d now (.start source button))
        · exact absurd rfl (noStart source button)
        · cases same
          rw [starts, starts', asks, asks']
          exact ⟨rfl, .same⟩

theorem Meets.showsAlike (h : Meets c d) {effect effect' : Option Effect} (same : effect = effect') :
    ShowsAlike (c, effect) (d, effect') := by
  cases h with
  | same => exact ⟨same, rfl, rfl, rfl, rfl, rfl, rfl, rfl⟩
  | rest idle idle' atRest atRest' =>
      exact {
        effect := same
        phase := idle.trans idle'.symm
        task := atRest.task.trans atRest'.task.symm
        stopping := atRest.heeding.trans atRest'.heeding.symm
        nextPoll := atRest.nextPoll.trans atRest'.nextPoll.symm
        resetAt := atRest.resetAt.trans atRest'.resetAt.symm
        deadline := atRest.nextDeadline.trans atRest'.nextDeadline.symm
        buttons := atRest.buttons.eq_reset.trans atRest'.buttons.eq_reset.symm }

theorem Meets.run (h : Meets c d) (events : List (Time × Event)) :
    Meets (c.run events).1 (d.run events).1 ∧
      List.Forall₂ ShowsAlike (c.trace events) (d.trace events) := by
  induction events generalizing c d with
  | nil => exact ⟨h, .nil⟩
  | cons head rest ih =>
      obtain ⟨effect, next⟩ := h.step head.1 head.2
      obtain ⟨last, shows⟩ := ih next
      exact ⟨last, .cons (next.showsAlike effect) shows⟩

/-- A start at rest makes the two equal. -/
theorem Meets.start (h : Meets c d) (idle : c.phase = .idle) (now : Time) (source : Media.Source)
    (button : Button) : c.step now (.start source button) = d.step now (.start source button) := by
  have idle' : d.phase = .idle := by
    cases h with
    | same => exact idle
    | rest _ idle' => exact idle'
  rw [Turn.step_eq (.start idle), Turn.step_eq (.start idle')]
  rfl

theorem ShowsAlike.effects {left right : List (Controller × Option Effect)}
    (h : List.Forall₂ ShowsAlike left right) :
    left.flatMap (fun s => s.2.toList) = right.flatMap (fun s => s.2.toList) := by
  induction h with
  | nil => rfl
  | cons first _ ih => rw [List.flatMap_cons, List.flatMap_cons, first.effect, ih]

/-- Whatever brought a controller back to rest, from then on it is driven like a fresh one: each event
asks for the same and shows the same phase, task, deadline and buttons, and from an accepted start
on the two go through the same states. -/
theorem run_rest_like_fresh (before : List (Time × Event))
    (rest : (run {} before).1.phase = .idle) (after : List (Time × Event)) :
    ((run {} before).1.run after).2 = (run {} after).2 ∧
    List.Forall₂ ShowsAlike ((run {} before).1.trace after) (trace {} after) ∧
    ∀ quiet now source button later, after = quiet ++ (now, .start source button) :: later →
      ((run {} before).1.run quiet).1.phase = .idle →
      ((run {} before).1.run quiet).1.trace ((now, .start source button) :: later) =
        (run {} quiet).1.trace ((now, .start source button) :: later) := by
  have idle : (run {} before).1.AtRest := (coherent_fresh.run before).rests rest
  have meets : Meets (run {} before).1 {} := .rest rest rfl idle coherent_fresh
  refine ⟨?_, (meets.run after).2, ?_⟩
  · rw [effects_run, effects_run]
    exact ShowsAlike.effects (meets.run after).2
  · intro quiet now source button later _ ready
    have start := (meets.run quiet).1.start ready now source button
    rw [trace, trace, start]

/-- A conversion that was polled twice and stopped, and the next one, with a late report in between. -/
theorem run_rest_after_stop :
    let before : List (Time × Event) :=
      [(0, .start ⟨"u", .cuda⟩ .mp3), (10, .created (.ok "t")), (2010, .tick),
        (2100, .status "t" (.ok { status := .processing, message := some "Half" })), (4100, .tick),
        (4200, .status "t" (.error (.transport "lost"))), (4300, .stop), (4400, .stopped "t" (.ok ())),
        (4900, .tick)]
    let after : List (Time × Event) :=
      [(5000, .status "t" (.ok { status := .completed })), (5100, .start ⟨"v", .cpu⟩ .link),
        (5200, .created (.ok "t")), (7200, .tick)]
    let rest := (run {} before).1
    rest.phase = .idle ∧ rest.attempts = 2 ∧ rest.gauge.message = "Cancelled" ∧
    (rest.run after).2 = [.createTask ⟨"v", .cpu⟩, .fetchStatus "t"] ∧
    rest.trace after ≠ trace {} after ∧
    (rest.run (after.take 1)).1.trace (after.drop 1) =
      (run {} (after.take 1)).1.trace (after.drop 1) := by
  intro before after rest
  obtain ⟨asks, -, equal⟩ := run_rest_like_fresh before rfl after
  refine ⟨rfl, rfl, rfl, asks, ?_, equal (after.take 1) _ _ _ _ rfl rfl⟩
  -- The late report shows the two apart: the count of the first one is still there.
  intro same
  have count := congrArg (fun t => t.head?.map (·.1.attempts)) same
  exact absurd count (by decide)

end Controller

end KeySheet.Conversion
