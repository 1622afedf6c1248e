import Mathlib.Data.Nat.Find
import KeySheet.Proofs.Conversion.Coherence
import KeySheet.Proofs.Conversion.Verdict

/-! A session asks before every sleep whether to stop, and the script alone decides in which worlds
it asks. Where the answer is yes, one more call stops the task and the session ends as cancelled;
where it never is, the session ends as if nobody could ask. -/
namespace KeySheet.Conversion

namespace Script

/-- The bar after so many reports that decide nothing; a failed question leaves it as it is. -/
def barAt (script : Script) : Nat → Gauge
  | 0 => ⟨"Starting conversion...", 10, true⟩
  | k + 1 => match script.status k with
      | .ok report => ⟨Controller.runningMessage report, Controller.percentAt k, true⟩
      | .error _ => script.barAt k

/-- All that has been shown by then: a bar that has not changed is not shown again. -/
def linesAt (script : Script) : Nat → List Gauge
  | 0 => [script.barAt 0]
  | k + 1 =>
      if script.barAt (k + 1) = script.barAt k then script.linesAt k
      else script.linesAt k ++ [script.barAt (k + 1)]

/-- The world in which a session asks whether to stop, after so many sleeps. A question for the
status follows every twentieth of them. -/
def moment (script : Script) (source : Media.Source) (task : TaskId) (start : Time) (n : Nat) :
    World where
  clock := start + script.latency * (n / 20 + 1) + 100 * n
  sleeps := n
  created := [source]
  polled := List.replicate (n / 20) task
  shown := script.linesAt (n / 20)

variable {script : Script}

theorem barAt_visible (k : Nat) : (script.barAt k).visible = true := by
  induction k with
  | zero => rfl
  | succ k ih =>
      unfold barAt
      cases script.status k with
      | ok report => rfl
      | error e => exact ih

theorem barAt_succ {c : Controller} {k : Nat} (attempts : c.attempts = k)
    (gauge : c.gauge = script.barAt k) : c.gaugeAfter (script.status k) = script.barAt (k + 1) := by
  unfold barAt
  cases script.status k with
  | ok report => rw [Controller.gaugeAfter, attempts]
  | error e => exact gauge

theorem linesAt_prefix {k : Nat} {w : World} {s : Session} (shown : w.shown = script.linesAt k) :
    script.linesAt k <+: (w.see s).shown := by
  rw [← shown]
  unfold World.see
  split
  · exact List.prefix_refl _
  · split
    · exact List.prefix_append _ _
    · exact List.prefix_refl _

theorem moment_sleep (script : Script) (source : Media.Source) (task : TaskId) (start : Time)
    {n : Nat} (more : (n + 1) / 20 = n / 20) :
    script.moment source task start (n + 1) = (script.moment source task start n).later := by
  simp only [moment, World.later, more]
  rfl

theorem moment_poll (script : Script) (source : Media.Source) (task : TaskId) (start : Time)
    {n : Nat} (poll : (n + 1) / 20 = n / 20 + 1) :
    script.moment source task start (n + 1) =
      { (script.moment source task start n).later.answered script task with
        shown := script.linesAt (n / 20 + 1) } := by
  have clock : start + script.latency * (n / 20 + 1 + 1) + 100 * (n + 1) =
      start + script.latency * (n / 20 + 1) + 100 * n + 100 + script.latency := by
    -- The calls before are kept closed, as their product with the latency is not linear.
    rw [Nat.mul_succ script.latency (n / 20 + 1)]
    generalize script.latency * (n / 20 + 1) = calls
    change start + (calls + script.latency) + (100 * n + 100) = _
    ac_rfl
  simp only [moment, World.later, World.answered, poll, clock, List.replicate_succ']

end Script

namespace Session

variable {script : Script} {wanted : World → Bool} {source : Media.Source} {task : TaskId}
  {start : Time} {s : Session} {w : World} {n : Nat}

/-- After so many sleeps the session asks whether to stop, and nothing is decided. -/
structure Watches (script : Script) (source : Media.Source) (task : TaskId) (start : Time) (n : Nat)
    (s : Session) (w : World) : Prop where
  waits : s.Waits task (n / 20) ((script.moment source task start n).clock + 100 * (20 - n % 20))
  gauge : s.controller.gauge = script.barAt (n / 20)
  world : w.see s = script.moment source task start n

theorem Watches.turn (h : Watches script source task start n s w)
    (unwanted : wanted (script.moment source task start n) = false) (fuel : Nat) :
    loop (script.host wanted) (fuel + 1) s w =
      loop (script.host wanted) fuel
        (s.seen.apply (script.moment source task start n).later.clock .tick)
        (script.moment source task start n).later := by
  have left : 20 - n % 20 = 19 - n % 20 + 1 := by omega
  have unwanted' : wanted (w.see s) = false := by rw [h.world]; exact unwanted
  have turn : loop (script.host wanted) (fuel + 1) s w = _ := h.waits.turn unwanted' fuel
  rw [h.world, left, World.sleepTo_whole] at turn
  exact turn

/-- A question is about to be asked after a sleep, and the bar is as it was last shown. -/
structure Hears (script : Script) (task : TaskId) (heard : Nat) (s : Session) : Prop where
  asks : s.Asks task heard
  gauge : s.controller.gauge = script.barAt heard
  shown : s.shown = script.barAt heard

theorem Watches.sleep (h : Watches script source task start n s w)
    (unwanted : wanted (script.moment source task start n) = false)
    (more : (n + 1) / 20 = n / 20) (fuel : Nat) :
    ∃ s' w', loop (script.host wanted) (fuel + 1) s w = loop (script.host wanted) fuel s' w' ∧
      Watches script source task start (n + 1) s' w' := by
  have turn := h.turn unwanted fuel
  have world := script.moment_sleep source task start more
  generalize now : script.moment source task start n = before at *
  have due : before.clock + 100 * (20 - n % 20) =
      before.later.clock + 100 * (20 - (n + 1) % 20) := by
    have left : 20 - n % 20 = 20 - (n + 1) % 20 + 1 := by omega
    rw [left, Nat.mul_succ, Nat.add_comm _ 100, ← Nat.add_assoc]
    rfl
  have early : before.later.clock < before.clock + 100 * (20 - n % 20) := by
    have left : 0 < 20 - (n + 1) % 20 := by omega
    rw [due]
    exact Nat.lt_add_of_pos_right (Nat.mul_pos (by decide) left)
  have waits := h.waits
  rw [now] at waits
  rw [waits.apply_early early] at turn
  rw [due] at waits
  refine ⟨s.seen, before.later, turn, ?_, ?_, ?_⟩
  · rw [world, more]
    exact { waits with }
  · rw [more]
    exact h.gauge
  · rw [world, World.see_seen]

/-- Two turns, for the sleep and for the call, when a question is due. -/
theorem Watches.ask (h : Watches script source task start n s w)
    (unwanted : wanted (script.moment source task start n) = false)
    (poll : (n + 1) / 20 = n / 20 + 1) (fuel : Nat) :
    ∃ s' : Session,
      let asked := (script.moment source task start n).later.answered script task
      loop (script.host wanted) (fuel + 2) s w =
        loop (script.host wanted) fuel
          (s'.taken.apply asked.clock (.status task (script.status (n / 20)))) asked ∧
      Hears script task (n / 20) s' := by
  have turn := h.turn unwanted (fuel + 1)
  have due : (script.moment source task start n).clock + 100 * (20 - n % 20) =
      (script.moment source task start n).later.clock := by
    have left : 20 - n % 20 = 1 := by omega
    rw [left]
    rfl
  have waits := h.waits
  rw [due] at waits
  have asks := waits.due
  have count : (script.moment source task start n).later.polled.length = n / 20 :=
    List.length_replicate
  rw [asks.turn, count] at turn
  refine ⟨_, turn, asks, ?_, ?_⟩
  · rw [waits.apply_due]
    exact h.gauge
  · rw [waits.apply_due]
    exact h.gauge

/-- A report that decides nothing moves the bar, and the session waits again. -/
theorem Hears.undecided {heard : Nat} (h : Hears script task heard s)
    (silent : Script.decision (script.status heard) = none) (left : heard + 1 < 300) (now : Time) :
    let next := s.taken.apply now (.status task (script.status heard))
    next.Waits task (heard + 1) (now + 2000) ∧
      next.controller.gauge = script.barAt (heard + 1) ∧ next.shown = script.barAt heard := by
  refine ⟨h.asks.undecided silent left now, ?_, h.shown⟩
  have undecided := (Script.decision_eq_none_iff _).mp silent
  have room : s.taken.controller.attempts + 1 < Conversion.maxAttempts := by
    rw [show s.taken.controller.attempts = heard from h.asks.attempts]
    exact left
  rw [apply_turn (s := s.taken) (.undecided h.asks.heeding undecided room)]
  exact Script.barAt_succ h.asks.attempts h.gauge

/-- What a look at the bar adds is what the script says that it shows. -/
theorem see_barAt {k : Nat} (gauge : s.controller.gauge = script.barAt (k + 1))
    (shown : s.shown = script.barAt k) (lines : w.shown = script.linesAt k) :
    w.see s = { w with shown := script.linesAt (k + 1) } := by
  unfold World.see Script.linesAt
  rw [gauge, shown, Script.barAt_visible, if_pos rfl, ← lines]
  split <;> rfl

theorem Watches.poll (h : Watches script source task start n s w)
    (unwanted : wanted (script.moment source task start n) = false)
    (poll : (n + 1) / 20 = n / 20 + 1)
    (silent : Script.decision (script.status (n / 20)) = none) (left : n / 20 + 1 < 300)
    (fuel : Nat) :
    ∃ s' w', loop (script.host wanted) (fuel + 2) s w = loop (script.host wanted) fuel s' w' ∧
      Watches script source task start (n + 1) s' w' := by
  obtain ⟨s', turns, hears⟩ := h.ask unwanted poll fuel
  have world := script.moment_poll source task start poll
  obtain ⟨waits, gauge, shown⟩ := hears.undecided silent left
    ((script.moment source task start n).later.answered script task).clock
  refine ⟨_, _, turns, ?_, ?_, ?_⟩
  · have start' : (n + 1) % 20 = 0 := by omega
    rw [world, poll, start']
    exact waits
  · rw [poll]
    exact gauge
  · rw [world]
    exact see_barAt gauge shown rfl

theorem Watches.reach (h : Watches script source task start 0 s w) (n : Nat)
    (unwanted : ∀ m < n, wanted (script.moment source task start m) = false)
    (silent : ∀ k < n / 20, Script.decision (script.status k) = none) (left : n / 20 < 300)
    (fuel : Nat) :
    ∃ s' w', loop (script.host wanted) (fuel + (n + n / 20)) s w =
        loop (script.host wanted) fuel s' w' ∧
      Watches script source task start n s' w' := by
  -- On the sleeps: every twentieth takes a second turn, for the question that follows it.
  induction n generalizing fuel with
  | zero => exact ⟨s, w, rfl, h⟩
  | succ n ih =>
      have unwanted' := fun m (before : m < n) => unwanted m (Nat.lt_succ_of_lt before)
      have here := unwanted n (Nat.lt_succ_self n)
      by_cases more : (n + 1) / 20 = n / 20
      · obtain ⟨s', w', run, watches⟩ := ih unwanted' (more ▸ silent) (more ▸ left) (fuel + 1)
        obtain ⟨s'', w'', turn, watches'⟩ := watches.sleep here more fuel
        have count : fuel + (n + 1 + (n + 1) / 20) = fuel + 1 + (n + n / 20) := by omega
        exact ⟨s'', w'', by rw [count, run, turn], watches'⟩
      · have poll : (n + 1) / 20 = n / 20 + 1 := by omega
        rw [poll] at silent left
        have silent' := fun k (before : k < n / 20) => silent k (Nat.lt_succ_of_lt before)
        obtain ⟨s', w', run, watches⟩ := ih unwanted' silent' (Nat.lt_of_succ_lt left) (fuel + 2)
        obtain ⟨s'', w'', turn, watches'⟩ :=
          watches.poll here poll (silent _ (Nat.lt_succ_self _)) left fuel
        have count : fuel + (n + 1 + (n + 1) / 20) = fuel + 2 + (n + n / 20) := by omega
        exact ⟨s'', w'', by rw [count, run, turn], watches'⟩

/-- The wish to stop is to be passed on to the converter. -/
def stops (s : Session) (task : TaskId) : Session :=
  { s.seen with
    controller :=
      { s.controller with stopping := true, buttons := s.controller.buttons.markStopping }
    pending := [.cancelTask task] }

theorem Waits.apply_stop {heard : Nat} {due : Time} (h : s.Waits task heard due) (now : Time) :
    s.seen.apply now .stop = s.stops task := by
  rw [apply_turn (s := s.seen) (.stop h.heeding), show s.seen.pending = [] from h.idle]
  rfl

/-- Whatever the converter answers to the wish, the session ends as cancelled. -/
theorem Waits.stops_closes {heard : Nat} {due : Time} (h : s.Waits task heard due) (now : Time)
    (answer : Except Backend.Failure Unit) :
    let ends := (s.stops task).taken.apply now (.stopped task answer)
    ends.Closes heard (.ok none) ∧ ends.controller.buttons.AtRest := by
  rw [apply_turn (s := (s.stops task).taken) (.stopped h.heeding.1 h.heeding.2.1)]
  exact ⟨⟨rfl, h.untold, rfl, h.attempts⟩, Buttons.atRest_reset⟩

theorem Watches.stopped (h : Watches script source task start n s w)
    (wants : wanted (script.moment source task start n) = true) (fuel : Nat) :
    ∃ s' w', loop (script.host wanted) (fuel + 4) s w = (some (.ok none, s'), w') ∧
      w'.created = [source] ∧ w'.polled = List.replicate (n / 20) task ∧ w'.stopped = [task] ∧
      script.linesAt (n / 20) <+: w'.shown ∧
      s'.controller.phase = .cancelled ∧ s'.controller.buttons.AtRest := by
  have wants' : wanted (w.see s) = true := by rw [h.world]; exact wants
  have turn : loop (script.host wanted) (fuel + 4) s w = _ :=
    loop_stop h.waits.idle h.waits.ended wants' h.waits.heeding.2.2 (fuel + 3)
  rw [h.world, h.waits.apply_stop, loop_perform (s := s.stops task) rfl, perform_cancelTask,
    dispatch_host] at turn
  let told := ((script.host wanted).stop task (script.moment source task start n)).2
  obtain ⟨closes, buttons⟩ := h.waits.stops_closes told.clock script.stop
  obtain ⟨s', same, ends⟩ := closes.settles script fuel told
  have looked := World.slept_see told s'
  refine ⟨s'.seen, told.see s', turn.trans ends, looked.created, looked.polled, looked.stopped,
    Script.linesAt_prefix rfl, ?_, ?_⟩
  · exact (congrArg Controller.phase same).trans closes.phase
  · rw [← same] at buttons
    exact buttons

/-- The last report, or the last question that patience allows, ends the session. -/
theorem Watches.ends (h : Watches script source task start n s w)
    (unwanted : wanted (script.moment source task start n) = false)
    (poll : (n + 1) / 20 = n / 20 + 1) {outcome : Outcome}
    (last : Script.decision (script.status (n / 20)) = some outcome ∨
      Script.decision (script.status (n / 20)) = none ∧ n / 20 + 1 = 300 ∧
        outcome = .error .timeout) (fuel : Nat) :
    ∃ s' w', loop (script.host wanted) (fuel + 4) s w = (some (outcome, s'), w') ∧
      w'.created = [source] ∧ w'.polled = List.replicate (n / 20 + 1) task ∧ w'.stopped = [] ∧
      script.linesAt (n / 20) <+: w'.shown ∧ s'.controller.phase = outcome.phase := by
  obtain ⟨s', turns, hears⟩ := h.ask unwanted poll (fuel + 2)
  let heard := (script.moment source task start n).later.answered script task
  have closes : (s'.taken.apply heard.clock (.status task (script.status (n / 20)))).Closes
      (n / 20 + 1) outcome := by
    rcases last with decides | ⟨silent, spent, rfl⟩
    · exact hears.asks.decided decides heard.clock
    · exact hears.asks.timedOut silent spent heard.clock
  obtain ⟨s'', same, ends⟩ := closes.settles script fuel heard
  have looked := World.slept_see heard s''
  refine ⟨s''.seen, heard.see s'', turns.trans ends, looked.created, ?_, looked.stopped,
    Script.linesAt_prefix rfl, ?_⟩
  · rw [looked.polled, List.replicate_succ']
    rfl
  · exact (congrArg Controller.phase same).trans closes.phase

/-- The first look, after the task has been created. -/
theorem watches_opened (script : Script) (source : Media.Source) (task : TaskId) (start : Time) :
    let begun := World.submitted { clock := start } script source
    Watches script source task start 0
      ((opened source).apply begun.clock (.created (.ok task))) begun := by
  intro begun
  have goes := opened_created source task begun
  have world : begun.see ((opened source).apply begun.clock (.created (.ok task))) =
      script.moment source task start 0 := by
    rw [apply_turn (s := opened source) (.created rfl)]
    simp [World.see, begun, World.submitted, Script.moment, Script.linesAt, Script.barAt, opened,
      Controller.started]
  have due : begun.clock + 2000 =
      (script.moment source task start 0).clock + 100 * (20 - 0 % 20) := by
    simp only [begun, World.submitted, Script.moment, Nat.zero_div, Nat.zero_add, Nat.mul_one]
  refine ⟨due ▸ goes, ?_, world⟩
  rw [apply_turn (s := opened source) (.created rfl)]
  rfl

variable {c : Controller}

theorem run_refused (rest : c.phase = .idle) (wanted : World → Bool) (source : Media.Source)
    (start : Time) {e : Backend.Failure} (refused : script.create = .error e) :
    ∃ s w, run (script.host wanted) c source { clock := start } =
        (some (.error (.start e.userMessage), s), w) ∧
      w.created = [source] ∧ w.polled = [] ∧ w.stopped = [] ∧
      s.controller.phase = .failed (.start e.userMessage) := by
  rw [run_begun rest, refused]
  have closes := opened_refused source e (World.submitted { clock := start } script source).clock
  obtain ⟨s, same, ends⟩ := closes.settles script 9997
    (World.submitted { clock := start } script source)
  have looked := World.slept_see (World.submitted { clock := start } script source) s
  refine ⟨s.seen, _, ends, looked.created, looked.polled, looked.stopped, ?_⟩
  exact (congrArg Controller.phase same).trans closes.phase

/-- A run comes to each moment before the verdict, with turns left, if nobody has wanted to stop at
an earlier one. -/
theorem run_reaches (rest : c.phase = .idle) (source : Media.Source) (start : Time)
    (created : script.create = .ok task) (before : n < 20 * script.verdict.1)
    (unwanted : ∀ m < n, wanted (script.moment source task start m) = false) :
    ∃ fuel s w, run (script.host wanted) c source { clock := start } =
        loop (script.host wanted) (fuel + 4) s w ∧
      Watches script source task start n s w := by
  have verdict : script.verdict = script.verdictFrom 0 300 := by
    simp only [Script.verdict, created]
  obtain ⟨k, count, -, below, silent, -⟩ := script.verdictFrom_last 0 299
  rw [verdict, count] at before
  have silent' : ∀ j < n / 20, Script.decision (script.status j) = none :=
    fun j early => silent j (Nat.zero_le j) (by omega)
  obtain ⟨s, w, reached, watches⟩ := (watches_opened script source task start).reach n unwanted
    silent' (by omega) (9995 - (n + n / 20) + 4)
  have turns : 9995 - (n + n / 20) + 4 + (n + n / 20) = 9999 := by omega
  refine ⟨9995 - (n + n / 20), s, w, ?_, watches⟩
  rw [run_begun rest, created, ← turns, reached]

theorem run_asked (rest : c.phase = .idle) (wanted : World → Bool) (source : Media.Source)
    (start : Time) (created : script.create = .ok task) (before : n < 20 * script.verdict.1)
    (unwanted : ∀ m < n, wanted (script.moment source task start m) = false)
    (wants : wanted (script.moment source task start n) = true) :
    ∃ s w, run (script.host wanted) c source { clock := start } = (some (.ok none, s), w) ∧
      w.created = [source] ∧ w.polled = List.replicate (n / 20) task ∧ w.stopped = [task] ∧
      script.linesAt (n / 20) <+: w.shown ∧
      s.controller.phase = .cancelled ∧ s.controller.buttons.AtRest := by
  obtain ⟨fuel, s, w, run, watches⟩ := run_reaches rest source start created before unwanted
  rw [run]
  exact watches.stopped wants fuel

theorem run_unasked (rest : c.phase = .idle) (wanted : World → Bool) (source : Media.Source)
    (start : Time) (created : script.create = .ok task)
    (unwanted : ∀ n < 20 * script.verdict.1,
      wanted (script.moment source task start n) = false) :
    ∃ s w, run (script.host wanted) c source { clock := start } = (some (script.verdict.2, s), w) ∧
      w.created = [source] ∧ w.polled = List.replicate script.verdict.1 task ∧ w.stopped = [] ∧
      script.linesAt (script.verdict.1 - 1) <+: w.shown ∧
      s.controller.phase = script.verdict.2.phase := by
  have verdict : script.verdict = script.verdictFrom 0 300 := by
    simp only [Script.verdict, created]
  obtain ⟨k, count, -, -, -, last⟩ := script.verdictFrom_last 0 299
  rw [← verdict] at count last
  -- The last sleep before the last question.
  have before : 20 * k + 19 < 20 * script.verdict.1 := by omega
  have heard : (20 * k + 19) / 20 = k := by omega
  have last' : Script.decision (script.status ((20 * k + 19) / 20)) = some script.verdict.2 ∨
      Script.decision (script.status ((20 * k + 19) / 20)) = none ∧ (20 * k + 19) / 20 + 1 = 300 ∧
        script.verdict.2 = .error .timeout := by
    rw [heard]
    rcases last with decides | ⟨undecided, spent, late⟩
    · exact .inl decides
    · exact .inr ⟨undecided, by omega, late⟩
  obtain ⟨fuel, s, w, run, watches⟩ := run_reaches rest source start created before
    (fun m early => unwanted m (Nat.lt_trans early before))
  obtain ⟨s', w', ends⟩ := watches.ends (unwanted _ before) (by omega) last' fuel
  rw [heard] at ends
  rw [run, count]
  exact ⟨s', w', ends⟩

/-! A flag that the progress calls set: it hangs on what has been shown so far. -/

theorem run_unasked_lines {wanted : List Gauge → Bool} (source : Media.Source) (start : Time)
    (created : script.create = .ok task)
    (never : ∀ k < script.verdict.1, wanted (script.linesAt k) = false) :
    ∃ s w, run (script.host fun w => wanted w.shown) {} source { clock := start } =
        (some (script.verdict.2, s), w) ∧
      w.created = [source] ∧ w.polled = List.replicate script.verdict.1 task ∧ w.stopped = [] ∧
      script.linesAt (script.verdict.1 - 1) <+: w.shown ∧
      s.controller.phase = script.verdict.2.phase :=
  run_unasked rfl (fun w => wanted w.shown) source start created
    (fun n before => never (n / 20) (Nat.div_lt_of_lt_mul before))

theorem run_asked_line {wanted : List Gauge → Bool} (source : Media.Source) (start : Time)
    (created : script.create = .ok task) {k : Nat} (before : k < script.verdict.1)
    (wants : wanted (script.linesAt k) = true)
    (first : ∀ j < k, wanted (script.linesAt j) = false) :
    ∃ s w, run (script.host fun w => wanted w.shown) {} source { clock := start } =
        (some (.ok none, s), w) ∧
      w.created = [source] ∧ w.polled = List.replicate k task ∧ w.stopped = [task] ∧
      script.linesAt k <+: w.shown ∧
      s.controller.phase = .cancelled ∧ s.controller.buttons.AtRest := by
  have same : 20 * k / 20 = k := Nat.mul_div_cancel_left k (by decide)
  have wants' : wanted (script.moment source task start (20 * k)).shown = true := by
    simpa only [Script.moment, same] using wants
  have ends := run_asked (c := {}) rfl (fun w => wanted w.shown) source start created
    (Nat.mul_lt_mul_of_pos_left before (by decide))
    (fun m early => first (m / 20) (Nat.div_lt_of_lt_mul early)) wants'
  rwa [same] at ends

/-- A wish to stop that comes before the session or while it shows its progress is heeded: no more
is asked about the task, it is stopped once, and the session ends as cancelled, whatever the
converter answers. One that comes with the end is too late, and a task that is not created cannot
be stopped. -/
theorem run_heeds_stop (script : Script) (wanted : List Gauge → Bool) (source : Media.Source)
    (start : Time) :
    ∃ outcome s w,
      run (script.host fun w => wanted w.shown) {} source { clock := start } =
        (some (outcome, s), w) ∧
      w.created = [source] ∧
      (∀ e, script.create = .error e →
        outcome = .error (.start e.userMessage) ∧ w.polled = [] ∧ w.stopped = []) ∧
      ∀ task, script.create = .ok task →
        ((∀ k < script.verdict.1, wanted (script.linesAt k) = false) →
          outcome = script.verdict.2 ∧ s.controller.phase = outcome.phase ∧
          w.polled = List.replicate script.verdict.1 task ∧ w.stopped = [] ∧
          script.linesAt (script.verdict.1 - 1) <+: w.shown) ∧
        ∀ k < script.verdict.1, wanted (script.linesAt k) = true →
          (∀ j < k, wanted (script.linesAt j) = false) →
          outcome = .ok none ∧ s.controller.phase = .cancelled ∧ s.controller.buttons.AtRest ∧
          w.polled = List.replicate k task ∧ w.stopped = [task] ∧ script.linesAt k <+: w.shown := by
  cases created : script.create with
  | error e =>
      obtain ⟨s, w, run, source', polled, stopped, -⟩ :=
        run_refused (c := {}) rfl (fun w => wanted w.shown) source start created
      refine ⟨_, s, w, run, source', ?_, by nofun⟩
      rintro _ ⟨⟩
      exact ⟨rfl, polled, stopped⟩
  | ok task =>
      by_cases never : ∀ k < script.verdict.1, wanted (script.linesAt k) = false
      · obtain ⟨s, w, run, source', polled, stopped, lines, phase⟩ :=
          run_unasked_lines source start created never
        refine ⟨_, s, w, run, source', by nofun, ?_⟩
        rintro _ ⟨⟩
        refine ⟨fun _ => ⟨rfl, phase, polled, stopped, lines⟩, fun k before wants => ?_⟩
        exact absurd wants (by simp [never k before])
      · have sometime : ∃ k, k < script.verdict.1 ∧ wanted (script.linesAt k) = true := by
          simpa using never
        obtain ⟨before, wants⟩ := Nat.find_spec sometime
        have first : ∀ j < Nat.find sometime, wanted (script.linesAt j) = false :=
          fun j early => Bool.eq_false_iff.mpr fun wants' =>
            Nat.find_min sometime early ⟨Nat.lt_trans early before, wants'⟩
        -- The wish is heeded where it is first seen, and there is one such place only.
        generalize Nat.find sometime = k at before wants first
        obtain ⟨s, w, run, source', polled, stopped, lines, phase, buttons⟩ :=
          run_asked_line source start created before wants first
        refine ⟨_, s, w, run, source', by nofun, ?_⟩
        rintro _ ⟨⟩
        refine ⟨fun never' => absurd wants (by simp [never' k before]),
          fun k' _ wants' first' => ?_⟩
        obtain rfl : k' = k := by
          rcases Nat.lt_trichotomy k' k with early | equal | late
          · exact absurd wants' (by simp [first k' early])
          · exact equal
          · exact absurd wants (by simp [first' k late])
        exact ⟨rfl, phase, buttons, polled, stopped, lines⟩

/-- The wish comes with the first line, before a report that would complete the task, and the
converter does not even answer it. -/
theorem run_heeds_stop_unanswered :
    let script : Script :=
      { create := .ok "t"
        status := fun _ => .ok { status := .completed }
        stop := .error (.transport "down") }
    ∃ s w, run (script.host fun w => decide (w.shown ≠ [])) {} ⟨"u", .cuda⟩ {} =
        (some (.ok none, s), w) ∧
      w.polled = [] ∧ w.stopped = ["t"] ∧ s.controller.buttons.AtRest := by
  intro script
  obtain ⟨outcome, s, w, run, -, -, ends⟩ :=
    run_heeds_stop script (fun shown => decide (shown ≠ [])) ⟨"u", .cuda⟩ 0
  obtain ⟨rfl, -, buttons, polled, stopped, -⟩ :=
    (ends "t" rfl).2 0 (by decide) (by decide) (fun j early => absurd early (Nat.not_lt_zero j))
  exact ⟨s, w, run, polled, stopped, buttons⟩

end Session

end KeySheet.Conversion
