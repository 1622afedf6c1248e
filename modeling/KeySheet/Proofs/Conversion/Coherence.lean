import KeySheet.Proofs.Conversion.Turn

/-! The fields of the controller belong together: each phase says what the task, the times, the
buttons and the bar have to be. The law holds at rest, and no event breaks it, due or not. -/
namespace KeySheet.Conversion

namespace Buttons

/-- Every button starts a conversion, and none stops one. -/
def AtRest (s : Buttons) : Prop :=
  s.active = none ∧ ∀ b, s.mode b = .idle ∧ s.isDisabled b = false

/-- One button is active, in this mode; every other one is idle and disabled. -/
def Sole (s : Buttons) (mode : Mode) (disabled : Bool) : Prop :=
  ∃ b, s.active = some b ∧ s.mode b = mode ∧ s.isDisabled b = disabled ∧
    ∀ other, other ≠ b → s.mode other = .idle ∧ s.isDisabled other = true

theorem atRest_reset : AtRest .reset := ⟨rfl, fun _ => ⟨rfl, rfl⟩⟩

theorem sole_converting (b : Button) : (converting b).Sole .converting false := by
  refine ⟨b, rfl, if_pos rfl, by simp [isDisabled], fun other differs => ⟨?_, ?_⟩⟩
  · exact if_neg (Ne.symm differs)
  · simpa [isDisabled] using Ne.symm differs

theorem sole_stopping (b : Button) : (stopping b).Sole .stopping true :=
  ⟨b, rfl, if_pos rfl, rfl, fun _ differs => ⟨if_neg (Ne.symm differs), rfl⟩⟩

theorem Sole.markStopping {s : Buttons} (h : s.Sole .converting false) :
    s.markStopping.Sole .stopping true := by
  obtain ⟨b, active, -⟩ := h
  cases s with
  | reset => cases active
  | converting a => exact sole_stopping a
  | stopping a => exact sole_stopping a

end Buttons

namespace Controller

/-- No conversion, and nothing left of the last one to wait for. -/
structure AtRest (c : Controller) : Prop where
  task : c.task = none
  heeding : c.stopping = false
  quiet : c.awaiting = false
  nextPoll : c.nextPoll = none
  resetAt : c.resetAt = none
  buttons : c.buttons.AtRest
  hidden : c.gauge.visible = false

/-- The task is being created, and no time is set. -/
structure Submits (c : Controller) : Prop where
  task : c.task = none
  heeding : c.stopping = false
  quiet : c.awaiting = false
  attempts : c.attempts = 0
  nextPoll : c.nextPoll = none
  resetAt : c.resetAt = none
  buttons : c.buttons.Sole .converting false
  visible : c.gauge.visible = true

/-- There is a task to poll; a poll is either under way or set for a time, unless it is stopped. -/
structure Polls (c : Controller) : Prop where
  task : c.task ≠ none
  resetAt : c.resetAt = none
  attempts : c.attempts < 300
  visible : c.gauge.visible = true
  converting : c.stopping = false → c.buttons.Sole .converting false
  stopping : c.stopping = true → c.buttons.Sole .stopping true
  nextPoll : c.stopping = false → (c.nextPoll = none ↔ c.awaiting = true)

structure Ended (c : Controller) : Prop where
  resetAt : c.resetAt ≠ none
  nextPoll : c.nextPoll = none

/-- What the other fields are in each phase. -/
def Coherent (c : Controller) : Prop :=
  match c.phase with
  | .idle => c.AtRest
  | .submitting => c.Submits
  | .polling => c.Polls
  | .completed => c.Ended ∧ c.buttons.Sole .converting false
  | .cancelled => c.Ended ∧ c.buttons.AtRest
  | .failed why => c.Ended ∧ c.buttons.AtRest ∧ c.gauge.visible = false ∧ why ≠ .emptyUrl

variable {c : Controller} {now : Time}

theorem Coherent.rests (h : c.Coherent) (rest : c.phase = .idle) : c.AtRest := by
  simpa only [Coherent, rest] using h

theorem Coherent.submits (h : c.Coherent) (submitting : c.phase = .submitting) : c.Submits := by
  simpa only [Coherent, submitting] using h

theorem Coherent.polls (h : c.Coherent) (polling : c.phase = .polling) : c.Polls := by
  simpa only [Coherent, polling] using h

theorem coherent_fresh : Coherent {} :=
  AtRest.mk rfl rfl rfl rfl rfl Buttons.atRest_reset rfl

theorem coherent_started (c : Controller) (button : Button) : (c.started button).Coherent :=
  Submits.mk rfl rfl rfl rfl rfl rfl (Buttons.sole_converting button) rfl

theorem coherent_reset (c : Controller) : c.reset.Coherent :=
  AtRest.mk rfl rfl rfl rfl rfl Buttons.atRest_reset rfl

theorem coherent_cancel (c : Controller) (now : Time) : (c.cancel now).Coherent :=
  ⟨⟨Option.some_ne_none _, rfl⟩, Buttons.atRest_reset⟩

theorem coherent_fail (c : Controller) {why : Failure} (known : why ≠ .emptyUrl) (now : Time) :
    (c.fail why now).1.Coherent :=
  ⟨⟨Option.some_ne_none _, rfl⟩, Buttons.atRest_reset, rfl, known⟩

theorem Submits.created (h : c.Submits) (task : TaskId) (due : Time) :
    Polls { c with phase := .polling, task := some task, nextPoll := some due } where
  task := Option.some_ne_none task
  resetAt := h.resetAt
  attempts := by simp only [h.attempts, Nat.zero_lt_succ]
  visible := h.visible
  converting _ := h.buttons
  stopping stopped := by simp [h.heeding] at stopped
  nextPoll _ := by simp [h.quiet]

theorem Polls.undecided (h : c.Polls)
    (answer : Except Backend.Failure Media.StatusReport) (left : c.attempts + 1 < maxAttempts)
    (due : Time) :
    Polls { c.heard with gauge := c.gaugeAfter answer, nextPoll := some due } where
  task := h.task
  resetAt := h.resetAt
  attempts := left
  visible := by cases answer with
    | ok report => rfl
    | error e => exact h.visible
  converting := h.converting
  stopping := h.stopping
  nextPoll _ := by simp [heard]

theorem Polls.stop (h : c.Polls) (heeding : c.stopping = false) :
    Polls { c with stopping := true, buttons := c.buttons.markStopping } where
  task := h.task
  resetAt := h.resetAt
  attempts := h.attempts
  visible := h.visible
  converting heeds := by cases heeds
  stopping _ := (h.converting heeding).markStopping
  nextPoll heeds := by cases heeds

theorem Coherent.turn (h : c.Coherent) {event : Event} {next : Controller} {effect : Option Effect}
    (turn : Turn c now event next effect) : next.Coherent := by
  cases turn with
  | ignored => exact h
  | start idle => exact coherent_started c _
  | created submitting => exact (h.submits submitting).created _ _
  | refused => exact coherent_fail c (by simp) now
  | muted polling same stopped =>
      have polls := h.polls polling
      have law : Polls { c with awaiting := false } :=
        { polls with nextPoll := fun heeds => by simp [stopped] at heeds }
      simpa only [Coherent, polling] using law
  | completed heeding =>
      exact ⟨⟨Option.some_ne_none _, rfl⟩, (h.polls heeding.1).converting heeding.2.2⟩
  | cancelled => exact coherent_cancel c.heard now
  | failed => exact coherent_fail c.heard (by simp) now
  | @undecided task answer heeding _ left =>
      have law := (h.polls heeding.1).undecided answer left (now + pollInterval)
      simpa only [Coherent, heard, heeding.1] using law
  | timedOut => exact coherent_fail _ (by simp) now
  | stop heeding =>
      simpa only [Coherent, heeding.1] using (h.polls heeding.1).stop heeding.2.2
  | stopped => exact coherent_cancel c now
  | reset => exact coherent_reset c
  | poll _ heeding =>
      have polls := h.polls heeding.1
      have law : Polls { c with awaiting := true, nextPoll := none } :=
        { polls with nextPoll := fun _ => by simp }
      simpa only [Coherent, heeding.1] using law

theorem Coherent.run (h : c.Coherent) (events : List (Time × Event)) : (c.run events).1.Coherent :=
  run_keeps (fun coherent turn => coherent.turn turn) h events

/-- Whatever comes, in whatever order and at whatever times: the fields belong to the phase. -/
theorem run_fresh_coherent (events : List (Time × Event)) :
    (run {} events).1.Coherent :=
  coherent_fresh.run events

end Controller

end KeySheet.Conversion
