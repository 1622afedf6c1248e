import KeySheet.Proofs.Conversion.Coherence

/-! What the controller asks for over a whole run. The effects fall into conversions, each of which
begins with the creation of its task, polls it, and ends by at most one effect: a result, a message
or the wish to stop. An end is told when, and only when, the phase of that end is entered. -/
namespace KeySheet.Conversion

namespace Effect

def isStart : Effect → Bool
  | createTask _ => true
  | _ => false

def isFetch : Effect → Bool
  | fetchStatus _ => true
  | _ => false

def isCancel : Effect → Bool
  | cancelTask _ => true
  | _ => false

def isEnd : Effect → Bool
  | completed _ | alert _ => true
  | _ => false

/-- What a conversion may ask for once its task is being created. -/
inductive Body : List Effect → Prop
  | nil : Body []
  | fetch {task rest} : Body rest → Body (.fetchStatus task :: rest)
  | cancel {task} : Body [.cancelTask task]
  | completed {result} : Body [.completed result]
  | alert {why} : Body [.alert why]

/-- The effects of one conversion, as an observer would check them. -/
structure Orderly (part : List Effect) : Prop where
  start : ∃ source rest, part = .createTask source :: rest ∧ ∀ e ∈ rest, e.isStart = false
  oneEnd : part.countP isEnd ≤ 1
  endLast : ∀ {before e after}, part = before ++ e :: after → e.isEnd = true → after = []
  oneCancel : part.countP isCancel ≤ 1
  silent : ∀ {before e after}, part = before ++ e :: after → e.isCancel = true →
    ∀ later ∈ after, later.isFetch = false ∧ later.isEnd = false

theorem Body.noStart {es : List Effect} (h : Body es) : ∀ e ∈ es, e.isStart = false := by
  induction h with
  | nil => simp
  | fetch _ ih => exact List.forall_mem_cons.mpr ⟨rfl, ih⟩
  | cancel | completed | alert => simp [isStart]

/-- An end or a wish to stop is the last effect there is. -/
theorem Body.last {es : List Effect} (h : Body es) {before after : List Effect} {e : Effect}
    (split : es = before ++ e :: after) (closing : e.isEnd = true ∨ e.isCancel = true) :
    after = [] := by
  induction h generalizing before with
  | nil => simp at split
  | fetch _ ih =>
      cases before with
      | nil =>
          obtain ⟨rfl, -⟩ := List.cons.inj split
          rcases closing with told | stopped
          · cases told
          · cases stopped
      | cons _ before => exact ih (List.cons.inj split).2
  | cancel | completed | alert =>
      cases before with
      | nil => exact (List.cons.inj split).2.symm
      | cons _ before => simp at split

theorem Body.closings {es : List Effect} (h : Body es) :
    es.countP isEnd ≤ 1 ∧ es.countP isCancel ≤ 1 := by
  induction h with
  | nil => simp
  | fetch _ ih => simpa [isEnd, isCancel] using ih
  | cancel | completed | alert => simp [isEnd, isCancel]

theorem Body.orderly {es : List Effect} (h : Body es) (source : Media.Source) :
    Orderly (.createTask source :: es) := by
  have last {before after : List Effect} {e : Effect}
      (split : .createTask source :: es = before ++ e :: after)
      (closing : e.isEnd = true ∨ e.isCancel = true) : after = [] := by
    cases before with
    | nil =>
        obtain ⟨rfl, -⟩ := List.cons.inj split
        rcases closing with told | stopped
        · cases told
        · cases stopped
    | cons _ before => exact h.last (List.cons.inj split).2 closing
  refine ⟨⟨source, es, rfl, h.noStart⟩, ?_, ?_, ?_, ?_⟩
  · simpa [isEnd] using h.closings.1
  · intro before e after split told
    exact last split (.inl told)
  · simpa [isCancel] using h.closings.2
  · intro before e after split stopped later member
    rw [last split (.inr stopped)] at member
    cases member

end Effect

theorem Phase.isRunning_of_busy {p : Phase} (busy : p ≠ .idle) (going : p.isTerminal = false) :
    p.isRunning = true := by
  cases p with
  | idle => exact absurd rfl busy
  | submitting | polling => rfl
  | completed | cancelled | failed => cases going

theorem Phase.isTerminal_of_running {p : Phase} (running : p.isRunning = true) :
    p.isTerminal = false := by
  cases p with
  | submitting | polling => rfl
  | idle | completed | cancelled | failed => cases running

namespace Controller

open Effect (Body)

/-- The conversion may still ask for something. -/
def isLive (c : Controller) : Bool :=
  match c.phase with
  | .submitting => true
  | .polling => !c.stopping
  | _ => false

/-- Whether a conversion may still ask for something, before and after one effect or none. -/
inductive Emission : Bool → Option Effect → Bool → Prop
  | none {live live'} : (live' = true → live = true) → Emission live none live'
  | start {source} : Emission false (some (.createTask source)) true
  | fetch {task} : Emission true (some (.fetchStatus task)) true
  | cancel {task} : Emission true (some (.cancelTask task)) false
  | completed {result} : Emission true (some (.completed result)) false
  | alert {why} : Emission true (some (.alert why)) false

variable {c : Controller} {now : Time}

theorem isHeeding.isLive {task : TaskId} (h : c.isHeeding task) : c.isLive = true := by
  simp only [Controller.isLive, h.1, h.2.2, Bool.not_false]

theorem Turn.emission {event : Event} {next : Controller} {effect : Option Effect}
    (turn : Turn c now event next effect) : Emission c.isLive effect next.isLive := by
  cases turn with
  | ignored => exact .none id
  | start idle =>
      have still : c.isLive = false := by simp only [isLive, idle]
      rw [still]
      exact .start
  | created submitting => exact .none (fun _ => by simp only [isLive, submitting])
  | refused submitting =>
      have live : c.isLive = true := by simp only [isLive, submitting]
      rw [live]
      exact .alert
  | muted => exact .none id
  | completed heeding => rw [heeding.isLive]; exact .completed
  | cancelled heeding => exact .none (fun _ => heeding.isLive)
  | failed heeding => rw [heeding.isLive]; exact .alert
  | undecided heeding => exact .none (fun _ => heeding.isLive)
  | timedOut heeding => rw [heeding.isLive]; exact .alert
  | stop heeding =>
      rw [heeding.isLive]
      simp only [isLive, heeding.1, Bool.not_true]
      exact .cancel
  | stopped => exact .none (fun live => by cases live)
  | reset => exact .none (fun live => by cases live)
  | poll _ heeding =>
      rw [heeding.isLive]
      simp only [isLive, heeding.1, heeding.2.2, Bool.not_false]
      exact .fetch

/-- The effects of a run: first what is left of the conversion at hand, then whole conversions. -/
theorem run_effects (c : Controller) (events : List (Time × Event)) :
    ∃ (head : List Effect) (parts : List (List Effect)),
      (c.run events).2 = head ++ parts.flatten ∧ Body head ∧
      (c.isLive = false → head = []) ∧
      ∀ part ∈ parts, ∃ source body, part = .createTask source :: body ∧ Body body := by
  induction events generalizing c with
  | nil => exact ⟨[], [], rfl, .nil, fun _ => rfl, by simp⟩
  | cons event rest ih =>
      obtain ⟨head, parts, same, body, still, whole⟩ := ih (c.step event.1 event.2).1
      have emission := (step_turn c event.1 event.2).emission
      rw [run_cons, same]
      generalize (c.step event.1 event.2).2 = effect at emission ⊢
      generalize (c.step event.1 event.2).1.isLive = live' at emission still
      generalize c.isLive = live at emission ⊢
      cases emission with
      | none grows =>
          refine ⟨head, parts, rfl, body, fun dead => still ?_, whole⟩
          cases live' with
          | false => rfl
          | true => exact absurd (grows rfl) (by simp [dead])
      | start =>
          refine ⟨[], (_ :: head) :: parts, rfl, .nil, fun _ => rfl, ?_⟩
          exact List.forall_mem_cons.mpr ⟨⟨_, head, rfl, body⟩, whole⟩
      | fetch => exact ⟨_ :: head, parts, rfl, .fetch body, by simp, whole⟩
      | cancel =>
          obtain rfl := still rfl
          exact ⟨[_], parts, rfl, .cancel, by simp, whole⟩
      | completed =>
          obtain rfl := still rfl
          exact ⟨[_], parts, rfl, .completed, by simp, whole⟩
      | alert =>
          obtain rfl := still rfl
          exact ⟨[_], parts, rfl, .alert, by simp, whole⟩

/-- A result is told when the conversion completes, whatever the event. -/
theorem step_completed_iff (c : Controller) (now : Time) (event : Event) :
    (∃ result, (c.step now event).2 = some (.completed result)) ↔
      c.phase ≠ .completed ∧ (c.step now event).1.phase = .completed := by
  have turn := step_turn c now event
  generalize (c.step now event).1 = next at turn ⊢
  generalize (c.step now event).2 = effect at turn ⊢
  constructor
  · rintro ⟨result, rfl⟩
    cases turn with
    | completed heeding => exact ⟨by simp [heeding.1], rfl⟩
  · rintro ⟨before, after⟩
    cases turn with
    | completed => exact ⟨_, rfl⟩
    | undecided heeding => exact absurd after before
    | ignored | muted | stop | poll => exact absurd after before
    | _ => cases after

/-- The result that is told is that of the report which completes the conversion. -/
theorem step_completed_report {event : Event} {result : Media.Result}
    (told : (c.step now event).2 = some (.completed result)) :
    ∃ task report, event = .status task (.ok report) ∧ report.status = .completed ∧
      report.result = result := by
  have turn := step_turn c now event
  rw [told] at turn
  generalize (c.step now event).1 = next at turn
  cases turn with
  | @completed task report heeding status => exact ⟨task, report, rfl, status, rfl⟩

/-- The user is told of a failure when the conversion fails, and of that failure. -/
theorem step_alert_iff (c : Controller) (now : Time) (event : Event) (why : Failure) :
    (c.step now event).2 = some (.alert why) ↔
      c.phase ≠ .failed why ∧ (c.step now event).1.phase = .failed why := by
  have turn := step_turn c now event
  generalize (c.step now event).1 = next at turn ⊢
  generalize (c.step now event).2 = effect at turn ⊢
  constructor
  · rintro rfl
    cases turn with
    | refused submitting => exact ⟨by simp [submitting], rfl⟩
    | failed heeding => exact ⟨by simp [heeding.1], rfl⟩
    | timedOut heeding => exact ⟨by simp [heeding.1], rfl⟩
  · rintro ⟨before, after⟩
    cases turn with
    | refused | failed | timedOut => cases after; rfl
    | undecided heeding => exact absurd after before
    | ignored | muted | stop | poll => exact absurd after before
    | _ => cases after

theorem step_start_idle {event : Event} {source : Media.Source}
    (h : (c.step now event).2 = some (.createTask source)) : c.phase = .idle := by
  have turn := step_turn c now event
  rw [h] at turn
  generalize (c.step now event).1 = next at turn
  cases turn with
  | start idle => exact idle

/-- The phases that a run passes through, without the one it begins in. -/
def phases (c : Controller) : List (Time × Event) → List Phase
  | [] => []
  | (now, event) :: rest => (c.step now event).1.phase :: (c.step now event).1.phases rest

/-- The end of a conversion stays until the controller is at rest again. -/
theorem Turn.terminal {event : Event} {next : Controller} {effect : Option Effect}
    (turn : Turn c now event next effect) (ended : c.phase.isTerminal = true) :
    next.phase = c.phase ∨ next.phase = .idle := by
  cases turn with
  | ignored => exact .inl rfl
  | reset => exact .inr rfl
  | start rest => simp [rest, Phase.isTerminal] at ended
  | created submitting | refused submitting => simp [submitting, Phase.isTerminal] at ended
  | muted polling | stopped polling => simp [polling, Phase.isTerminal] at ended
  | completed heeding | cancelled heeding | failed heeding | undecided heeding | timedOut heeding
    | stop heeding => simp [heeding.1, Phase.isTerminal] at ended
  | poll _ heeding => simp [heeding.1, Phase.isTerminal] at ended

theorem Coherent.terminal_of_rest (h : c.Coherent) {event : Event} {next : Controller}
    {effect : Option Effect} (turn : Turn c now event next effect) (busy : c.phase ≠ .idle)
    (rest : next.phase = .idle) : c.phase.isTerminal = true := by
  cases turn with
  | ignored | muted | undecided | stop | poll => exact absurd rest busy
  | reset due =>
      cases phase : c.phase with
      | idle => exact absurd phase busy
      | submitting => simp [(h.submits phase).resetAt, isDue] at due
      | polling => simp [(h.polls phase).resetAt, isDue] at due
      | completed | cancelled | failed => rfl
  | _ => cases rest

/-- On the way from a conversion back to rest there is one phase of the end, and the controller
stays in it until the reset. -/
theorem Coherent.passage {c : Controller} (h : c.Coherent) (busy : c.phase ≠ .idle)
    (events : List (Time × Event)) (away : ∀ p ∈ c.phases events, p ≠ .idle) {now : Time}
    {event : Event} (home : ((c.run events).1.step now event).1.phase = .idle) :
    ∃ running last n, c.phase :: c.phases events = running ++ List.replicate (n + 1) last ∧
      (∀ p ∈ running, p.isRunning = true) ∧ last.isTerminal = true := by
  induction events generalizing c with
  | nil =>
      exact ⟨[], c.phase, 0, rfl, by simp, h.terminal_of_rest (step_turn c now event) busy home⟩
  | cons head rest ih =>
      have turn := step_turn c head.1 head.2
      obtain ⟨awayNow, awayLater⟩ := List.forall_mem_cons.mp away
      obtain ⟨running, last, n, same, runs, ends⟩ := ih (h.turn turn) awayNow awayLater home
      have phases : c.phase :: c.phases (head :: rest) =
          c.phase :: (running ++ List.replicate (n + 1) last) := by rw [← same]; rfl
      rw [phases]
      cases ended : c.phase.isTerminal with
      | false =>
          have first := Phase.isRunning_of_busy busy ended
          exact ⟨c.phase :: running, last, n, rfl, List.forall_mem_cons.mpr ⟨first, runs⟩, ends⟩
      | true =>
          -- An end is left for rest only, so nothing runs behind it.
          have stays := (turn.terminal ended).resolve_right awayNow
          cases running with
          | nil =>
              refine ⟨[], last, n + 1, ?_, by simp, ends⟩
              have first : (c.step head.1 head.2).1.phase = last := (List.cons.inj same).1
              rw [← stays, first]
              rfl
          | cons p running =>
              have first : (c.step head.1 head.2).1.phase = p := (List.cons.inj same).1
              have runs := runs p List.mem_cons_self
              rw [← first, stays] at runs
              rw [Phase.isTerminal_of_running runs] at ended
              cases ended

/-- Every run of a fresh controller is a sequence of whole conversions; it tells each end once, when
that end is reached, starts at rest only, and comes to rest over one end. -/
theorem run_fresh_effects (events : List (Time × Event)) :
    (∃ parts : List (List Effect), (run {} events).2 = parts.flatten ∧
      ∀ part ∈ parts, Effect.Orderly part) ∧
    (∀ before now event after, events = before ++ (now, event) :: after →
      let c := (run {} before).1
      ((∃ result, (c.step now event).2 = some (.completed result)) ↔
        c.phase ≠ .completed ∧ (c.step now event).1.phase = .completed) ∧
      (∀ result, (c.step now event).2 = some (.completed result) →
        ∃ task report, event = .status task (.ok report) ∧ report.status = .completed ∧
          report.result = result) ∧
      (∀ why, (c.step now event).2 = some (.alert why) ↔
        c.phase ≠ .failed why ∧ (c.step now event).1.phase = .failed why) ∧
      (∀ source, (c.step now event).2 = some (.createTask source) → c.phase = .idle)) ∧
    (∀ before middle now event after, events = before ++ middle ++ (now, event) :: after →
      let c := (run {} before).1
      c.phase ≠ .idle → (∀ p ∈ c.phases middle, p ≠ .idle) →
      ((c.run middle).1.step now event).1.phase = .idle →
      ∃ running last n, c.phase :: c.phases middle = running ++ List.replicate (n + 1) last ∧
        (∀ p ∈ running, p.isRunning = true) ∧ last.isTerminal = true) := by
  refine ⟨?_, ?_, ?_⟩
  · obtain ⟨head, parts, same, -, still, whole⟩ := run_effects {} events
    obtain rfl := still rfl
    refine ⟨parts, same, fun part member => ?_⟩
    obtain ⟨source, body, rfl, h⟩ := whole part member
    exact h.orderly source
  · intro before now event after _ c
    exact ⟨step_completed_iff c now event, fun _ => step_completed_report,
      step_alert_iff c now event, fun _ => step_start_idle⟩
  · intro before middle now event after _ c busy away home
    exact (coherent_fresh.run before).passage busy middle away home

end Controller

end KeySheet.Conversion
