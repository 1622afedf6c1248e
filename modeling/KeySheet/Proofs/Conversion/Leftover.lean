import KeySheet.Proofs.Conversion.Moments

/-! A session on the controller that earlier sessions have left behind. Only a controller at rest takes
the start. One that still shows the end of a conversion is waited for and brought to rest, without
any conversion; one that shows a completion or a failure while a stop is wanted keeps the session
busy for ever. -/
namespace KeySheet.Conversion

namespace Controller

variable {c next : Controller} {now : Time} {event : Event} {effect : Option Effect}

/-- The end of a conversion is not shown for long, and with a stop asked for it is the end of a
cancelled one. -/
structure Settles (c : Controller) (now : Time) : Prop where
  coherent : c.Coherent
  near : ∀ due, c.resetAt = some due → due ≤ now + 500
  heeding : c.phase ≠ .polling → c.phase ≠ .cancelled → c.stopping = false

theorem settles_fresh (now : Time) : Settles {} now := ⟨coherent_fresh, nofun, fun _ _ => rfl⟩

theorem Settles.later {now' : Time} (h : c.Settles now) (later : now ≤ now') : c.Settles now' :=
  { h with near := fun due set => Nat.le_trans (h.near due set) (Nat.add_le_add_right later 500) }

theorem Settles.turn (h : c.Settles now) (turn : Turn c now event next effect) :
    next.Settles now where
  coherent := h.coherent.turn turn
  near := by
    cases turn with
    | start | reset => nofun
    | refused | completed | cancelled | failed | timedOut | stopped =>
        rintro _ ⟨⟩
        exact Nat.le_refl _
    | _ => exact h.near
  heeding := by
    cases turn with
    | ignored => exact h.heeding
    | start | reset => exact fun _ _ => rfl
    | created | cancelled | stopped => simp [cancel]
    | refused submitting =>
        exact fun _ _ => h.heeding (by simp [submitting]) (by simp [submitting])
    | muted polling => exact fun running => absurd polling running
    | undecided heeding | stop heeding | poll _ heeding =>
        exact fun running => absurd heeding.1 running
    | completed heeding | failed heeding | timedOut heeding => exact fun _ _ => heeding.2.2

theorem Settles.step (h : c.Settles now) (event : Event) : (c.step now event).1.Settles now :=
  h.turn (step_turn c now event)

theorem Coherent.ended (h : c.Coherent) (terminal : c.phase.isTerminal = true) : c.Ended := by
  cases phase : c.phase with
  | idle | submitting | polling => simp [phase, Phase.isTerminal] at terminal
  | completed | cancelled | failed =>
      simp only [Coherent, phase] at h
      exact h.1

end Controller

namespace World

/-- Time may have passed, and the converter was not called. -/
structure Uncalled (w w' : World) : Prop where
  awake : w.clock ≤ w'.clock
  created : w'.created = w.created
  polled : w'.polled = w.polled
  stopped : w'.stopped = w.stopped

theorem Uncalled.trans {w w' w'' : World} (h : Uncalled w w') (h' : Uncalled w' w'') :
    Uncalled w w'' where
  awake := Nat.le_trans h.awake h'.awake
  created := h'.created.trans h.created
  polled := h'.polled.trans h.polled
  stopped := h'.stopped.trans h.stopped

theorem uncalled_see (w : World) (s : Session) : Uncalled w (w.see s) := by
  have looked := slept_see w s
  exact ⟨Nat.le_of_eq looked.clock.symm, looked.created, looked.polled, looked.stopped⟩

/-- A sleep that does not reach the deadline is as long as a sleep can be. -/
theorem sleepTo_short {w : World} {due : Time} (h : (w.sleepTo due).clock < due) :
    (w.sleepTo due).clock = w.clock + 100 := by
  have whole (clock due : Nat) (short : clock + min (due - clock) maxSleep < due) :
      min (due - clock) maxSleep = 100 := by
    unfold maxSleep at *
    omega
  unfold sleepTo at *
  by_cases early : w.clock < due
  · rw [if_pos early] at h ⊢
    exact congrArg (w.clock + ·) (whole w.clock due h)
  · rw [if_neg early] at h
    exact absurd h early

theorem uncalled_sleepTo (w : World) (due : Time) : Uncalled w (w.sleepTo due) := by
  unfold sleepTo
  split
  · exact ⟨Nat.le_add_right _ _, rfl, rfl, rfl⟩
  · exact ⟨Nat.le_refl _, rfl, rfl, rfl⟩

end World

namespace Session

open Controller (Settles)
open World (Uncalled)

variable {script : Script} {wanted : World → Bool} {s : Session} {w : World} {c : Controller}

theorem keeps_settles (script : Script) (wanted : World → Bool) :
    Keeps (script.host wanted) (fun s w => s.controller.Settles w.clock) where
  perform := by
    intro s w effect h _
    have later : s.controller.Settles (w.clock + script.latency) := h.later (Nat.le_add_right _ _)
    cases effect with
    | createTask source => exact later.step (.created script.create)
    | fetchStatus task => exact later.step (.status task (script.status w.polled.length))
    | cancelTask task => exact later.step (.stopped task script.stop)
    | completed result => exact h
    | alert why => exact h
  look := by
    intro s w h _
    rw [showProgress_host]
    exact h.later (World.uncalled_see w s).awake
  ask h := h
  stop h _ _ := h.step .stop
  wait := by
    intro s w h _ _
    rw [wait_state, woken_host]
    cases s.controller.nextDeadline with
    | none => exact h.step .tick
    | some due => exact (h.later (World.uncalled_sleepTo w due).awake).step .tick

/-- The controllers that any number of sessions leave behind, one after another, each with the time
of the next session. -/
inductive Left : Controller → Time → Prop
  | fresh (start : Time) : Left {} start
  | later {c : Controller} {now now' : Time} : Left c now → now ≤ now' → Left c now'
  | ran {c : Controller} {start : Time} {script : Script} {wanted : World → Bool}
      {source : Media.Source} {outcome : Outcome} {s : Session} {w : World} : Left c start →
      run (script.host wanted) c source { clock := start } = (some (outcome, s), w) →
      Left s.controller w.clock

/-- A session ends at rest or at the end of a conversion. -/
theorem rests_of_ended {outcome : Outcome} (h : s.ended = some outcome) :
    s.controller.phase = .idle ∨ s.controller.phase.isTerminal = true := by
  cases phase : s.controller.phase with
  | idle => exact .inl rfl
  | submitting | polling => simp [Session.ended, phase] at h
  | completed | cancelled | failed => exact .inr rfl

theorem Left.settles {now : Time} (h : Left c now) :
    c.Settles now ∧ (c.phase = .idle ∨ c.phase.isTerminal = true) := by
  induction h with
  | fresh start => exact ⟨Controller.settles_fresh start, .inl rfl⟩
  | later _ after ih => exact ⟨ih.1.later after, ih.2⟩
  | @ran c start script wanted source outcome s w _ ran ih =>
      let begun := Session.apply { controller := c } start
        (.start source (Button.ofSource source))
      have settled : begun.controller.Settles start := ih.1.step _
      obtain ⟨last, settles, ends⟩ := (keeps_settles script wanted).loop
        (x := { clock := start }) settled turns
      have ran' : loop (script.host wanted) turns begun { clock := start } =
          (some (outcome, s), w) := ran
      rw [ran'] at settles ends
      obtain ⟨rfl, ended, -⟩ := ends outcome s rfl
      exact ⟨settles, rests_of_ended ended⟩

/-- The end of a conversion that was not cancelled is still shown, and nothing else is to be done. -/
structure Lingers (s : Session) (due : Time) : Prop where
  idle : s.pending = []
  untold : s.outcome = none
  phase : s.controller.phase = .completed ∨ ∃ why, s.controller.phase = .failed why
  heeding : s.controller.stopping = false
  resetAt : s.controller.resetAt = some due

theorem Lingers.seen {due : Time} (h : s.Lingers due) : s.seen.Lingers due := { h with }

theorem Lingers.ended {due : Time} (h : s.Lingers due) : s.ended = none := by
  rcases h.phase with completed | ⟨why, failed⟩
  · simp only [Session.ended, completed, h.untold]
  · simp only [Session.ended, failed, h.untold]

theorem Lingers.deaf {due : Time} (h : s.Lingers due) (task : TaskId) :
    ¬ s.controller.isHeeding task := by
  rintro ⟨polling, -⟩
  rcases h.phase with completed | ⟨why, failed⟩
  · simp [polling] at completed
  · simp [polling] at failed

theorem apply_ignored {now : Time} {event : Event} (idle : s.pending = [])
    (ignored : s.controller.Ignores now event) : s.apply now event = s := by
  rw [apply_turn (.ignored ignored), idle]
  exact congrArg (fun pending => { s with pending := pending }) idle.symm

/-- A wish to stop is passed on again and again, to no effect. -/
theorem Lingers.spins {due : Time} (h : s.Lingers due) (wants : ∀ w, wanted w = true)
    (script : Script) (fuel : Nat) (w : World) :
    (loop (script.host wanted) fuel s w).1 = none := by
  -- On the turns: each leaves the session as it was, but for the look at the bar.
  induction fuel generalizing s w with
  | zero => rfl
  | succ fuel ih =>
      have ignored : s.seen.apply (w.see s).clock .stop = s.seen :=
        apply_ignored h.idle h.seen.deaf
      rw [loop_stop h.idle h.ended (wants _) h.heeding, ignored]
      exact ih h.seen (w.see s)

theorem Lingers.turn {due : Time} (h : s.Lingers due) (unwanted : ∀ w, wanted w = false)
    (script : Script) (fuel : Nat) (w : World) :
    loop (script.host wanted) (fuel + 1) s w =
      loop (script.host wanted) fuel (s.seen.apply ((w.see s).sleepTo due).clock .tick)
        ((w.see s).sleepTo due) := by
  have quiet : s.controller.isWaiting = false := by
    rw [Bool.eq_false_iff, ne_eq, Controller.isWaiting_iff]
    rcases h.phase with completed | ⟨why, failed⟩
    · simp [completed]
    · simp [failed]
  have deadline : s.seen.controller.nextDeadline = some due := by
    simp only [Session.seen, Controller.nextDeadline, quiet, h.resetAt]
    rfl
  rw [loop_wait h.idle h.ended (unwanted _), wait_host deadline]

/-- The session with its controller brought to rest. -/
def rested (s : Session) : Session := { s.seen with controller := s.controller.reset }

theorem Lingers.apply_due {due now : Time} (h : s.Lingers due) (come : due ≤ now) :
    s.seen.apply now .tick = s.rested := by
  have isDue : Controller.isDue s.seen.controller.resetAt now = true := by
    simpa [Session.seen, h.resetAt, Controller.isDue] using come
  rw [apply_turn (s := s.seen) (.reset isDue), show s.seen.pending = [] from h.idle]
  exact congrArg (fun pending => { s.rested with pending := pending }) h.idle.symm

theorem Lingers.apply_early {due now : Time} (h : s.Lingers due) (early : now < due) :
    s.seen.apply now .tick = s.seen := by
  refine apply_ignored h.idle ⟨?_, fun task poll => h.deaf task poll.1⟩
  simpa [Session.seen, h.resetAt, Controller.isDue] using early

theorem Lingers.wakes {due : Time} (h : s.Lingers due) (unwanted : ∀ w, wanted w = false)
    (come : due ≤ ((w.see s).sleepTo due).clock) (script : Script) (fuel : Nat) :
    ∃ s' w', loop (script.host wanted) (fuel + 2) s w = (some (.ok none, s'), w') ∧
      s'.controller.phase = .idle ∧ Uncalled w w' := by
  have calls := (World.uncalled_see w s).trans (World.uncalled_sleepTo (w.see s) due)
  have ended : s.rested.ended = some (.ok none) := by
    simp only [Session.ended, rested, Session.seen, Controller.reset, h.untold, Option.getD_none]
  have ends : loop (script.host wanted) (fuel + 1) s.rested ((w.see s).sleepTo due) = _ :=
    loop_ended (s := s.rested) h.idle ended fuel _
  rw [h.turn unwanted, h.apply_due come, ends]
  exact ⟨_, _, rfl, rfl, calls.trans (World.uncalled_see _ _)⟩

/-- Sleep after sleep, the controller comes to rest, and the session ends without a conversion. -/
theorem Lingers.rests {due : Time} (h : s.Lingers due) (unwanted : ∀ w, wanted w = false)
    (script : Script) {n : Nat} (near : due ≤ w.clock + 100 * n) (fuel : Nat) :
    ∃ s' w', loop (script.host wanted) (fuel + n + 2) s w = (some (.ok none, s'), w') ∧
      s'.controller.phase = .idle ∧ Uncalled w w' := by
  -- On the sleeps left: the one that comes to the deadline is the last, and every other one is whole.
  induction n generalizing s w with
  | zero =>
      have calls := (World.uncalled_see w s).trans (World.uncalled_sleepTo (w.see s) due)
      exact h.wakes unwanted (Nat.le_trans near calls.awake) script fuel
  | succ n ih =>
      by_cases come : due ≤ ((w.see s).sleepTo due).clock
      · exact h.wakes unwanted come script (fuel + (n + 1))
      · have early := Nat.lt_of_not_le come
        have calls := (World.uncalled_see w s).trans (World.uncalled_sleepTo (w.see s) due)
        have turn := h.turn unwanted script (fuel + n + 2) w
        have clock : ((w.see s).sleepTo due).clock = w.clock + 100 := by
          rw [World.sleepTo_short early]
          exact congrArg (· + 100) (World.slept_see w s).clock
        rw [h.apply_early early] at turn
        have near' : due ≤ ((w.see s).sleepTo due).clock + 100 * n := by
          rw [clock, Nat.add_assoc, Nat.add_comm 100]
          exact near
        obtain ⟨s', w', run, rest, calls'⟩ := ih h.seen near'
        exact ⟨s', w', turn.trans run, rest, calls.trans calls'⟩

/-- A start that is not due changes nothing, and the loop begins at once. -/
theorem runFor_busy (busy : c.phase ≠ .idle) (script : Script) (wanted : World → Bool)
    (source : Media.Source) (fuel : Nat) (w : World) :
    runFor (script.host wanted) fuel c source w =
      loop (script.host wanted) fuel { controller := c } w := by
  have ignored : Session.apply { controller := c } w.clock
      (.start source (Button.ofSource source)) = { controller := c } := apply_ignored rfl busy
  rw [runFor, bind_state, dispatch_host, ignored]

theorem run_busy (busy : c.phase ≠ .idle) (script : Script) (wanted : World → Bool)
    (source : Media.Source) (w : World) :
    run (script.host wanted) c source w = loop (script.host wanted) 10000 { controller := c } w := by
  rw [run_eq_runFor, runFor_busy busy]
  rfl

theorem run_cancelled (cancelled : c.phase = .cancelled) (script : Script) (wanted : World → Bool)
    (source : Media.Source) (w : World) :
    ∃ s w', run (script.host wanted) c source w = (some (.ok none, s), w') ∧ Uncalled w w' := by
  have ended : Session.ended { controller := c } = some (.ok none) := by
    simp only [Session.ended, cancelled, Option.getD_none]
  rw [run_busy (by simp [cancelled])]
  exact ⟨_, _, loop_ended rfl ended 9999 w, World.uncalled_see _ _⟩

theorem lingers_of_settles {now : Time} (h : c.Settles now) (terminal : c.phase.isTerminal = true)
    (uncancelled : c.phase ≠ .cancelled) :
    ∃ due, due ≤ now + 500 ∧ Lingers { controller := c } due := by
  obtain ⟨due, set⟩ := Option.ne_none_iff_exists'.mp (h.coherent.ended terminal).resetAt
  refine ⟨due, h.near due set, rfl, rfl, ?_, ?_, set⟩
  · cases phase : c.phase with
    | idle | submitting | polling => simp [phase, Phase.isTerminal] at terminal
    | completed => exact .inl rfl
    | cancelled => exact absurd phase uncancelled
    | failed why => exact .inr ⟨why, rfl⟩
  · refine h.heeding (fun polling => ?_) uncancelled
    simp [polling, Phase.isTerminal] at terminal

theorem run_lingering {now : Time} (h : c.Settles now) (terminal : c.phase.isTerminal = true)
    (uncancelled : c.phase ≠ .cancelled) (wanted : World → Bool)
    (unwanted : ∀ w, wanted w = false) (script : Script) (source : Media.Source) :
    ∃ s w, run (script.host wanted) c source { clock := now } = (some (.ok none, s), w) ∧
      s.controller.phase = .idle ∧ Uncalled { clock := now } w := by
  have busy : c.phase ≠ .idle := by
    intro rest
    simp [rest, Phase.isTerminal] at terminal
  obtain ⟨due, near, lingers⟩ := lingers_of_settles h terminal uncancelled
  rw [run_busy busy]
  exact lingers.rests (w := { clock := now }) unwanted script (n := 5) near 9993

theorem run_at_rest (rest : c.phase = .idle) (script : Script) (flag : Bool)
    (source : Media.Source) (start : Time) :
    ∃ outcome s w, run (script.host fun _ => flag) c source { clock := start } =
        (some (outcome, s), w) ∧
      w.created = [source] ∧
      (∀ e, script.create = .error e → outcome = .error (.start e.userMessage)) ∧
      ∀ task, script.create = .ok task →
        (flag = false → outcome = script.verdict.2 ∧ w.stopped = []) ∧
        (flag = true → outcome = .ok none ∧ w.stopped = [task]) := by
  cases created : script.create with
  | error e =>
      obtain ⟨s, w, ran, source', -⟩ := run_refused rest (fun _ => flag) source start created
      refine ⟨_, s, w, ran, source', ?_, fun _ told => by cases told⟩
      rintro _ ⟨⟩
      rfl
  | ok task =>
      cases flag with
      | false =>
          obtain ⟨s, w, ran, source', -, stopped, -⟩ :=
            run_unasked rest (fun _ => false) source start created (fun _ _ => rfl)
          refine ⟨_, s, w, ran, source', (fun _ told => by cases told), ?_⟩
          rintro _ ⟨⟩
          exact ⟨fun _ => ⟨rfl, stopped⟩, fun wants => by cases wants⟩
      | true =>
          have asks : 0 < 20 * script.verdict.1 := by
            obtain ⟨k, polls, -⟩ := script.verdictFrom_last 0 299
            simp only [Script.verdict, created, polls]
            omega
          obtain ⟨s, w, ran, source', -, stopped, -⟩ :=
            run_asked rest (fun _ => true) source start created asks
              (fun m early => absurd early (Nat.not_lt_zero m)) rfl
          refine ⟨_, s, w, ran, source', (fun _ told => by cases told), ?_⟩
          rintro _ ⟨⟩
          exact ⟨(fun unwanted => by cases unwanted), fun _ => ⟨rfl, stopped⟩⟩

/-- A session converts its source on a controller at rest only. Behind the end of another conversion
that is still shown it calls nothing and says that it was cancelled; if a stop is wanted behind a
completion or a failure, it does not end at all. -/
theorem run_leftover {now : Time} (left : Left c now) (script : Script) (flag : Bool)
    (source : Media.Source) :
    let host := script.host fun _ => flag
    let begun : World := { clock := now }
    (c.phase = .idle → ∃ outcome s w, run host c source begun = (some (outcome, s), w) ∧
      w.created = [source] ∧
      (∀ e, script.create = .error e → outcome = .error (.start e.userMessage)) ∧
      ∀ task, script.create = .ok task →
        (flag = false → outcome = script.verdict.2 ∧ w.stopped = []) ∧
        (flag = true → outcome = .ok none ∧ w.stopped = [task])) ∧
    (c.phase ≠ .idle → c.phase = .cancelled ∨ flag = false →
      ∃ s w, run host c source begun = (some (.ok none, s), w) ∧
        w.created = [] ∧ w.polled = [] ∧ w.stopped = [] ∧
        (c.phase ≠ .cancelled → s.controller.phase = .idle)) ∧
    (c.phase ≠ .idle → c.phase ≠ .cancelled → flag = true →
      ∀ fuel, (runFor host fuel c source begun).1 = none) := by
  intro host begun
  obtain ⟨settles, rests⟩ := left.settles
  refine ⟨fun rest => run_at_rest rest script flag source now, fun busy quiet => ?_,
    fun busy uncancelled wants fuel => ?_⟩
  · by_cases cancelled : c.phase = .cancelled
    · obtain ⟨s, w, ran, calls⟩ := run_cancelled cancelled script (fun _ => flag) source begun
      exact ⟨s, w, ran, calls.created, calls.polled, calls.stopped, absurd cancelled⟩
    · obtain ⟨s, w, ran, rest, calls⟩ := run_lingering settles (rests.resolve_left busy) cancelled
        (fun _ => flag) (fun _ => quiet.resolve_left cancelled) script source
      exact ⟨s, w, ran, calls.created, calls.polled, calls.stopped, fun _ => rest⟩
  · obtain ⟨due, -, lingers⟩ :=
      lingers_of_settles settles (rests.resolve_left busy) uncancelled
    rw [runFor_busy busy]
    exact lingers.spins (fun _ => wants) script fuel begun

/-- A converter that completes every task with its first report. -/
def prompt : Script := { create := .ok "t", status := fun _ => .ok { status := .completed } }

theorem left_completed (source : Media.Source) :
    ∃ s w, run prompt.unstopped {} source {} = (some (.ok (some {}), s), w) ∧
      Left s.controller w.clock ∧ s.controller.phase = .completed := by
  obtain ⟨s, w, ran, -, -, -, -, phase⟩ := run_unasked (c := {}) rfl (fun _ => false)
    source 0 (show prompt.create = .ok "t" from rfl) (fun _ _ => rfl)
  exact ⟨s, w, ran, .ran (.fresh 0) ran, phase⟩

/-- Behind a completed session the next one gives up or, if a stop is wanted, goes on for ever. -/
theorem run_leftover_completed :
    ∃ c now, Left c now ∧ c.phase = .completed ∧
      (∃ s w, run prompt.unstopped c ⟨"v", .cuda⟩ { clock := now } = (some (.ok none, s), w) ∧
        w.created = []) ∧
      ∀ fuel, (runFor (prompt.host fun _ => true) fuel c ⟨"v", .cuda⟩ { clock := now }).1 = none := by
  obtain ⟨s, w, -, left, completed⟩ := left_completed ⟨"u", .cuda⟩
  have busy : s.controller.phase ≠ .idle := by simp [completed]
  have uncancelled : s.controller.phase ≠ .cancelled := by simp [completed]
  obtain ⟨-, ends, -⟩ := run_leftover left prompt false ⟨"v", .cuda⟩
  obtain ⟨-, -, spins⟩ := run_leftover left prompt true ⟨"v", .cuda⟩
  obtain ⟨s', w', ran, created, -⟩ := ends busy (.inr rfl)
  exact ⟨_, _, left, completed, ⟨s', w', ran, created⟩, spins busy uncancelled rfl⟩

/-- One session completes. The next one has another source and a converter that would complete it,
and nobody wants to stop it, but it creates no task and says that it was cancelled. -/
theorem second_session_converts_nothing :
    prompt.verdict.2 = .ok (some {}) ∧
    ∃ s w s' w',
      run prompt.unstopped {} ⟨"u", .cuda⟩ {} = (some (.ok (some {}), s), w) ∧
      run prompt.unstopped s.controller ⟨"v", .cuda⟩ { clock := w.clock } =
        (some (.ok none, s'), w') ∧
      w'.created = [] := by
  obtain ⟨s, w, first, left, completed⟩ := left_completed ⟨"u", .cuda⟩
  obtain ⟨s', w', second, -, calls⟩ := run_lingering left.settles.1 (by rw [completed]; rfl)
    (by simp [completed]) (fun _ => false) (fun _ => rfl) prompt ⟨"v", .cuda⟩
  exact ⟨rfl, s, w, s', w', first, second, calls.created⟩

end Session

end KeySheet.Conversion
