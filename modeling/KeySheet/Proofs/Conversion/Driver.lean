import KeySheet.Conversion.Session
import KeySheet.Proofs.Conversion.Turn

/-! The loop of a session in any world, whatever its converter, its clock and its user do: a turn
carries out the effect that is pending, or ends, or passes on the wish to stop, or sleeps and ticks.
What each of these keeps holds wherever the loop stops, at its end or without one. -/
namespace KeySheet.Conversion.Session

/-- A session after an event at a known time. -/
def apply (s : Session) (now : Time) (event : Event) : Session :=
  { s with
    controller := (s.controller.step now event).1
    pending := s.pending ++ (s.controller.step now event).2.toList }

def taken (s : Session) : Session := { s with pending := [] }

def seen (s : Session) : Session := { s with shown := s.controller.gauge }

/-- A run with a given number of turns. -/
def runFor {m : Type → Type} [Monad m] (host : Host m) (fuel : Nat) (controller : Controller)
    (source : Media.Source) : m (Option (Outcome × Session)) := do
  let s ← dispatch host { controller := controller } (.start source (Button.ofSource source))
  loop host fuel s

theorem run_eq_runFor {m : Type → Type} [Monad m] (host : Host m) (controller : Controller)
    (source : Media.Source) : run host controller source = runFor host turns controller source := rfl

variable {σ : Type} {host : Host (StateM σ)} {s : Session} {x : σ}

theorem apply_turn {now : Time} {event : Event} {next : Controller} {effect : Option Effect}
    (turn : s.controller.Turn now event next effect) :
    s.apply now event = { s with controller := next, pending := s.pending ++ effect.toList } := by
  rw [apply, turn.step_eq]

theorem bind_state {α β : Type} (f : StateM σ α) (g : α → StateM σ β) (x : σ) :
    (f >>= g) x = g (f x).1 (f x).2 := rfl

theorem dispatch_state (s : Session) (event : Event) (x : σ) :
    s.dispatch host event x = (s.apply (host.now x).1 event, (host.now x).2) := rfl

theorem perform_createTask (s : Session) (source : Media.Source) (x : σ) :
    s.perform host (.createTask source) x =
      s.dispatch host (.created (host.create source x).1) (host.create source x).2 := rfl

theorem perform_fetchStatus (s : Session) (task : TaskId) (x : σ) :
    s.perform host (.fetchStatus task) x =
      s.dispatch host (.status task (host.status task x).1) (host.status task x).2 := rfl

theorem perform_cancelTask (s : Session) (task : TaskId) (x : σ) :
    s.perform host (.cancelTask task) x =
      s.dispatch host (.stopped task (host.stop task x).1) (host.stop task x).2 := rfl

theorem showProgress_fst (s : Session) (x : σ) : (s.showProgress host x).1 = s.seen := by
  unfold showProgress seen
  by_cases same : s.controller.gauge = s.shown
  · simp only [same, if_true]
    rfl
  · simp only [same, if_false]
    cases s.controller.gauge.visible <;> rfl

/-- The world after the sleep before a tick. -/
def woken (host : Host (StateM σ)) (s : Session) (x : σ) : σ :=
  match s.controller.nextDeadline with
  | some due =>
      let asked := host.now x
      if asked.1 < due then (host.sleep (min (due - asked.1) maxSleep) asked.2).2 else asked.2
  | none => x

theorem wait_state (s : Session) (x : σ) :
    s.wait host x = s.dispatch host .tick (s.woken host x) := by
  unfold wait woken
  cases s.controller.nextDeadline with
  | none => rfl
  | some due =>
      simp only
      rw [bind_state]
      by_cases early : (host.now x).1 < due
      · simp only [early, if_true]
        rfl
      · simp only [early, if_false]

theorem ended_seen (s : Session) : s.seen.ended = s.ended := rfl

/-- Each effect that is left is carried out before anything else, the last one first. -/
theorem loop_pending {effect : Effect} (h : s.pending.getLast? = some effect) (fuel : Nat) (x : σ) :
    loop host (fuel + 1) s x =
      loop host fuel ({ s with pending := s.pending.dropLast }.perform host effect x).1
        ({ s with pending := s.pending.dropLast }.perform host effect x).2 := by
  rw [loop, h]
  rfl

/-- The end is told as soon as nothing is pending. -/
theorem loop_end {outcome : Outcome} (idle : s.pending = []) (h : s.ended = some outcome)
    (fuel : Nat) (x : σ) :
    loop host (fuel + 1) s x = (some (outcome, s.seen), (s.showProgress host x).2) := by
  rw [loop, idle, List.getLast?_nil]
  simp only
  rw [bind_state, showProgress_fst, ended_seen, h]
  rfl

/-- Before the end a wish to stop is passed on, once, and without one a tick comes after a sleep. -/
theorem loop_open (idle : s.pending = []) (h : s.ended = none) (fuel : Nat) (x : σ) :
    loop host (fuel + 1) s x =
      (let asked := host.stopWanted (s.showProgress host x).2
       let next := if asked.1 && !s.controller.stopping then s.seen.dispatch host .stop asked.2
         else s.seen.wait host asked.2
       loop host fuel next.1 next.2) := by
  rw [loop, idle, List.getLast?_nil]
  simp only
  rw [bind_state, showProgress_fst, ended_seen, h]
  simp only
  rw [bind_state, show s.seen.controller.stopping = s.controller.stopping from rfl]
  cases (host.stopWanted (s.showProgress host x).2).1 && !s.controller.stopping <;> rfl

/-- The parts of a turn, each with what it keeps. -/
structure Keeps (host : Host (StateM σ)) (P : Session → σ → Prop) : Prop where
  perform : ∀ {s x effect}, P s x → s.pending.getLast? = some effect →
    P ({ s with pending := s.pending.dropLast }.perform host effect x).1
      ({ s with pending := s.pending.dropLast }.perform host effect x).2
  look : ∀ {s x}, P s x → s.pending = [] → P s.seen (s.showProgress host x).2
  ask : ∀ {s x}, P s x → P s (host.stopWanted x).2
  stop : ∀ {s x}, P s x → s.pending = [] → s.ended = none →
    P (s.dispatch host .stop x).1 (s.dispatch host .stop x).2
  wait : ∀ {s x}, P s x → s.pending = [] → s.ended = none →
    P (s.wait host x).1 (s.wait host x).2

/-- Where the loop stops, a property holds that every part of a turn keeps; an outcome is told there
only when the session has ended and has been looked at. -/
theorem Keeps.loop {P : Session → σ → Prop} (keeps : Keeps host P) (h : P s x) (fuel : Nat) :
    ∃ last, P last (loop host fuel s x).2 ∧
      ∀ outcome s', (loop host fuel s x).1 = some (outcome, s') →
        s' = last ∧ last.ended = some outcome ∧ last.shown = last.controller.gauge := by
  -- On the turns left. What is pending says whether a turn carries out an effect; if it does not,
  -- the end is told behind the look at the progress, so the last session is one that was looked at.
  induction fuel generalizing s x with
  | zero => exact ⟨s, h, fun _ _ told => by cases told⟩
  | succ fuel ih =>
      cases pending : s.pending.getLast? with
      | some effect =>
          rw [loop_pending pending]
          exact ih (keeps.perform h pending)
      | none =>
          have idle := List.getLast?_eq_none_iff.mp pending
          have looked := keeps.look h idle
          cases ended : s.ended with
          | some outcome =>
              rw [loop_end idle ended]
              refine ⟨_, looked, fun outcome' s' told => ?_⟩
              cases told
              exact ⟨rfl, ended, rfl⟩
          | none =>
              rw [loop_open idle ended]
              simp only
              have asked := keeps.ask looked
              split
              · exact ih (keeps.stop asked idle ended)
              · exact ih (keeps.wait asked idle ended)

end KeySheet.Conversion.Session
