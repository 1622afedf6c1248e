import KeySheet.Proofs.Conversion.Stopping

/-! Events that a conversion has no use for: a second start, an answer that is not waited for or is
about another task, a stop that cannot be granted. They may come or stay away at any place. A
report that comes while the task is being stopped is among them, though it is not without a trace:
it ends the wait for a report. Nothing looks at that wait until the next start, so the two runs stay
alike. -/
namespace KeySheet.Conversion.Controller

/-- Events that the conversion has no use for in this state. -/
def IsIrrelevant (c : Controller) : Event → Prop
  | .start _ _ => c.phase ≠ .idle
  | .created _ => c.phase ≠ .submitting
  | .status task _ => c.phase ≠ .polling ∨ c.task ≠ some task ∨ c.stopping = true
  | .stopped task _ => c.phase ≠ .polling ∨ c.task ≠ some task
  | .stop => c.phase ≠ .polling ∨ c.stopping = true
  | .tick => False

/-- What can be seen of a controller. -/
structure View where
  phase : Phase
  task : Option TaskId
  attempts : Nat
  stopping : Bool
  buttons : Buttons
  gauge : Gauge
  deadline : Option Time
  deriving DecidableEq

def view (c : Controller) : View :=
  ⟨c.phase, c.task, c.attempts, c.stopping, c.buttons, c.gauge, c.nextDeadline⟩

/-- Events with their times, each with a mark: those that are spare may be left out. -/
abbrev Marked := List (Bool × Time × Event)

/-- With the spare events. -/
def Marked.all (events : Marked) : List (Time × Event) := events.map (·.2)

/-- Without the spare events. -/
def Marked.kept (events : Marked) : List (Time × Event) :=
  (events.filter (fun e => !e.1)).map (·.2)

/-- In a run of all events, each spare one is irrelevant where it comes. -/
def Spares (c : Controller) : Marked → Prop
  | [] => True
  | (spare, now, event) :: rest =>
      (spare = true → c.IsIrrelevant event) ∧ (c.step now event).1.Spares rest

/-- What a run of all events shows and asks for at those that are not spare. -/
def seen (c : Controller) : Marked → List (View × Option Effect)
  | [] => []
  | (spare, now, event) :: rest =>
      (if spare then [] else [((c.step now event).1.view, (c.step now event).2)]) ++
        (c.step now event).1.seen rest

/-- Equal, but for the wait for a report of a task that is being stopped or has been. -/
inductive Alike : Controller → Controller → Prop
  | same {c} : Alike c c
  | deaf {c} (b : Bool) : c.stopping = true → Alike c { c with awaiting := b }

variable {c d : Controller} {now : Time} {event : Event}

theorem Alike.view (h : Alike c d) : c.view = d.view := by
  cases h with
  | same => rfl
  | deaf b stopping => simp [Controller.view, nextDeadline, isWaiting, stopping]

theorem Alike.symm (h : Alike c d) : Alike d c := by
  cases h with
  | same => exact .same
  | deaf b stopping => exact .deaf (c := { c with awaiting := b }) c.awaiting stopping

theorem Alike.trans {e : Controller} (h : Alike c d) (h' : Alike d e) : Alike c e := by
  cases h with
  | same => exact h'
  | deaf b stopping =>
      cases h' with
      | same => exact .deaf b stopping
      | deaf b' => exact .deaf b' stopping

/-- A task that is being stopped does what it does whether a report is waited for or not. -/
theorem Turn.deaf {next : Controller} {effect : Option Effect} (turn : Turn c now event next effect)
    (stopping : c.stopping = true) (b : Bool) :
    ∃ next', Turn { c with awaiting := b } now event next' effect ∧ Alike next next' := by
  have deaf (task : TaskId) : ¬ c.isHeeding task := by
    intro heeding
    simpa [stopping] using heeding.2.2
  cases turn with
  | ignored ignores =>
      refine ⟨_, .ignored ?_, .deaf b stopping⟩
      cases event with
      | tick => exact ⟨ignores.1, fun task poll => deaf task poll.1⟩
      | _ => exact ignores
  | start idle => exact ⟨_, .start idle, .same⟩
  | created submitting => exact ⟨_, .created submitting, .deaf b stopping⟩
  | refused submitting => exact ⟨_, .refused submitting, .same⟩
  | muted polling same => exact ⟨_, .muted polling same stopping, .same⟩
  | stopped polling same => exact ⟨_, .stopped polling same, .deaf b rfl⟩
  | reset due => exact ⟨_, .reset due, .same⟩
  | completed heeding | cancelled heeding | failed heeding | undecided heeding | timedOut heeding
    | stop heeding => exact absurd heeding (deaf _)
  | poll _ heeding => exact absurd heeding (deaf _)

theorem Alike.step (h : Alike c d) (now : Time) (event : Event) :
    (c.step now event).2 = (d.step now event).2 ∧
      Alike (c.step now event).1 (d.step now event).1 := by
  cases h with
  | same => exact ⟨rfl, .same⟩
  | deaf b stopping =>
      obtain ⟨next', turn, alike⟩ := (step_turn c now event).deaf stopping b
      rw [turn.step_eq]
      exact ⟨rfl, alike⟩

/-- An irrelevant event asks for nothing, and at most ends the wait for a report. -/
theorem IsIrrelevant.step (h : c.IsIrrelevant event) (now : Time) :
    (c.step now event).2 = none ∧ Alike c (c.step now event).1 := by
  have ignored (ignores : c.Ignores now event) :
      (c.step now event).2 = none ∧ Alike c (c.step now event).1 := by
    rw [step_ignored ignores]
    exact ⟨rfl, .same⟩
  cases event with
  | start | created => exact ignored h
  | status task answer =>
      by_cases current : c.phase = .polling ∧ c.task = some task
      · obtain other | other | stopping := h
        · exact absurd current.1 other
        · exact absurd current.2 other
        · rw [Turn.step_eq (.muted current.1 current.2 stopping)]
          exact ⟨rfl, .deaf false stopping⟩
      · exact ignored current
  | stopped task answer =>
      apply ignored
      rintro ⟨polling, same⟩
      exact h.elim (absurd polling) (absurd same)
  | stop =>
      apply ignored
      rintro task ⟨polling, -, heeding⟩
      obtain other | stopping := h
      · exact other polling
      · simp [heeding] at stopping
  | tick => exact h.elim

/-- A run with spare events, and one of an alike controller without them. -/
theorem Alike.run (h : Alike c d) {events : Marked} (spares : c.Spares events) :
    (c.run events.all).2 = (d.run events.kept).2 ∧
      c.seen events = (d.trace events.kept).map (fun s => (s.1.view, s.2)) := by
  induction events generalizing c d with
  | nil => exact ⟨rfl, rfl⟩
  | cons head rest ih =>
      obtain ⟨spare, now, event⟩ := head
      obtain ⟨irrelevant, later⟩ := spares
      cases spare with
      | true =>
          -- The run without the event stays where it is.
          obtain ⟨silent, alike⟩ := (irrelevant rfl).step now
          obtain ⟨effects, views⟩ := ih (alike.symm.trans h) later
          refine ⟨?_, views⟩
          show (c.run ((now, event) :: Marked.all rest)).2 = (d.run (Marked.kept rest)).2
          rw [run_cons, silent, effects]
          rfl
      | false =>
          obtain ⟨same, alike⟩ := h.step now event
          obtain ⟨effects, views⟩ := ih alike later
          constructor
          · show (c.run ((now, event) :: Marked.all rest)).2 =
              (d.run ((now, event) :: Marked.kept rest)).2
            rw [run_cons, run_cons, same, effects]
          · show ((c.step now event).1.view, (c.step now event).2) :: (c.step now event).1.seen rest = _
            rw [views, same, alike.view]
            rfl

/-- Irrelevant events may be put in and left out anywhere: two runs that agree in the other events ask
for the same, and show the same after each of those. -/
theorem run_without_spares (c : Controller) {first second : Marked}
    (same : first.kept = second.kept) (spares : c.Spares first) (spares' : c.Spares second) :
    (c.run first.all).2 = (c.run second.all).2 ∧ c.seen first = c.seen second := by
  obtain ⟨effects, views⟩ := Alike.run .same spares
  obtain ⟨effects', views'⟩ := Alike.run .same spares'
  rw [effects, effects', views, views', same]
  exact ⟨rfl, rfl⟩

/-- A conversion that is stopped while it is polled, with late and foreign events, and with others. -/
theorem run_without_late_events :
    let first : Marked :=
      [(false, 0, .start ⟨"u", .cuda⟩ .mp3), (true, 5, .start ⟨"v", .cpu⟩ .link),
        (false, 10, .created (.ok "t")), (true, 15, .created (.ok "s")), (false, 2010, .tick),
        (true, 2020, .status "s" (.ok { status := .completed })), (false, 2100, .stop),
        (true, 2200, .status "t" (.ok { status := .completed })), (true, 2300, .stop),
        (false, 2400, .stopped "t" (.ok ())), (false, 2900, .tick)]
    let second : Marked :=
      [(true, 0, .stop), (false, 0, .start ⟨"u", .cuda⟩ .mp3), (false, 10, .created (.ok "t")),
        (false, 2010, .tick), (false, 2100, .stop), (true, 2150, .stopped "s" (.ok ())),
        (false, 2400, .stopped "t" (.ok ())), (false, 2900, .tick)]
    first.kept = second.kept ∧ Spares {} first ∧ Spares {} second ∧
    (run {} (first.all.take 8)).1 ≠ (run {} (second.all.take 6)).1 ∧
    (run {} first.all).2 = (run {} second.all).2 ∧ seen {} first = seen {} second := by
  intro first second
  have spares : Spares {} first :=
    ⟨nofun, fun _ => nofun, nofun, fun _ => nofun, nofun, fun _ => .inr (.inl (by decide)), nofun,
      fun _ => .inr (.inr rfl), fun _ => .inr rfl, nofun, nofun, trivial⟩
  have spares' : Spares {} second :=
    ⟨fun _ => .inl nofun, nofun, nofun, nofun, nofun, fun _ => .inr (by decide), nofun, nofun,
      trivial⟩
  have kept : first.kept = second.kept := rfl
  obtain ⟨effects, views⟩ := run_without_spares {} kept spares spares'
  -- The late report ends the wait in the first run only.
  exact ⟨kept, spares, spares', by decide, effects, views⟩

end KeySheet.Conversion.Controller
