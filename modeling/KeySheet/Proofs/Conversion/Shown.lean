import KeySheet.Proofs.Conversion.Driver
import KeySheet.Proofs.Conversion.Progress
import KeySheet.Proofs.Conversion.Script

/-! What a session shows of its conversion, in any world. Each value is visible and differs from the one
before, the percents never fall, and a result is told behind a full bar. -/
namespace KeySheet.Conversion

/-- The host, with a list of what it was given to show, the oldest first. -/
def Host.recorded {σ : Type} (host : Host (StateM σ)) : Host (StateM (σ × List Gauge)) where
  now p := ((host.now p.1).1, (host.now p.1).2, p.2)
  sleep n p := ((), (host.sleep n p.1).2, p.2)
  create source p := ((host.create source p.1).1, (host.create source p.1).2, p.2)
  status task p := ((host.status task p.1).1, (host.status task p.1).2, p.2)
  stop task p := ((host.stop task p.1).1, (host.stop task p.1).2, p.2)
  stopWanted p := ((host.stopWanted p.1).1, (host.stopWanted p.1).2, p.2)
  report gauge p := ((), (host.report gauge p.1).2, p.2 ++ [gauge])

/-- Values that were shown one after another. -/
structure Gauge.Rise (shown : List Gauge) : Prop where
  visible : ∀ g ∈ shown, g.visible = true
  distinct : shown.IsChain (· ≠ ·)
  rising : (shown.map Gauge.percent).Pairwise (· ≤ ·)

namespace Gauge

theorem rise_nil : Rise [] := ⟨by simp, .nil, .nil⟩

theorem eq_some_of_getD {gauge : Gauge} {last : Option Gauge} (same : gauge = last.getD {})
    (visible : gauge.visible = true) : last = some gauge := by
  cases last with
  | none =>
      rw [same] at visible
      cases visible
  | some last => exact congrArg some same.symm

theorem Rise.concat {shown : List Gauge} {gauge : Gauge} (h : Rise shown)
    (visible : gauge.visible = true) (differs : ∀ g ∈ shown.getLast?, g ≠ gauge)
    (above : ∀ g ∈ shown, g.percent ≤ gauge.percent) : Rise (shown ++ [gauge]) where
  visible := List.forall_mem_append.mpr ⟨h.visible, by simpa using visible⟩
  distinct := by
    refine h.distinct.append (.singleton gauge) fun g last g' member => ?_
    obtain rfl : gauge = g' := by simpa using member
    exact differs g last
  rising := by
    rw [List.map_append, List.pairwise_append]
    refine ⟨h.rising, List.pairwise_singleton _ _, ?_⟩
    simpa using above

end Gauge

namespace Controller

variable {c next : Controller} {now : Time} {event : Event} {effect : Option Effect}

/-- A bar that is hidden comes back with a start only. -/
theorem Turn.visible (turn : Turn c now event next effect) (coherent : c.Coherent)
    (within : c.IsWithin event) (visible : next.gauge.visible = true) : c.gauge.visible = true := by
  -- What hides the bar leaves it hidden, and what sets it comes while it is seen.
  cases turn with
  | start idle => exact absurd idle (within _ _ rfl)
  | refused | failed | timedOut | reset => cases visible
  | completed heeding | cancelled heeding | undecided heeding =>
      exact (coherent.polls heeding.1).visible
  | stopped polling => exact (coherent.polls polling).visible
  | _ => exact visible

end Controller

namespace Session

open Controller (step_turn step_completed_iff step_alert_iff)

/-- What is pending or told belongs to the phase, and nothing is pending behind what is told. -/
structure Tells (s : Session) : Prop where
  coherent : s.controller.Coherent
  filled : s.controller.Filled
  single : s.pending = [] ∨ ∃ effect, s.pending = [effect] ∧ s.outcome = none
  pending : ∀ outcome : Outcome, ∀ effect ∈ s.pending, outcome.effect? = some effect →
    s.controller.phase = outcome.phase
  told : ∀ outcome, s.outcome = some outcome → s.controller.phase = outcome.phase

/-- What was shown of a conversion, beside the bar as it is now. -/
structure Shows (s : Session) (shown : List Gauge) : Prop extends Tells s where
  rise : Gauge.Rise shown
  below : ∀ g ∈ shown, g.percent ≤ s.controller.gauge.percent
  last : s.controller.gauge.visible = true → s.shown = shown.getLast?.getD {}

variable {σ : Type} {host : Host (StateM σ)} {s : Session} {shown : List Gauge} {now : Time}
  {event : Event}

theorem Tells.untold (h : s.Tells) (open_ : s.ended = none) : s.outcome = none := by
  cases told : s.outcome with
  | none => rfl
  | some outcome =>
      have phase := h.told outcome told
      rcases outcome with why | _ | result <;>
        simp [Session.ended, phase, Outcome.phase, told] at open_

/-- An event whose effect, if it has one, becomes pending alone. -/
theorem Tells.apply (h : s.Tells) (idle : s.pending = []) (untold : s.outcome = none)
    (within : s.controller.IsWithin event) : (s.apply now event).Tells where
  coherent := h.coherent.turn (step_turn _ now event)
  filled := h.filled.turn (step_turn _ now event) within
  single := by
    cases effect : (s.controller.step now event).2 with
    | none => exact .inl (by rw [Session.apply, idle, effect]; rfl)
    | some effect' => exact .inr ⟨effect', by rw [Session.apply, idle, effect]; rfl, untold⟩
  pending := by
    intro outcome effect member same
    have asked : (s.controller.step now event).2 = some effect := by
      simpa [Session.apply, idle] using member
    rcases outcome with why | _ | result
    · cases same
      exact ((step_alert_iff _ _ _ _).mp asked).2
    · cases same
    · cases same
      exact ((step_completed_iff _ _ _).mp ⟨result, asked⟩).2
  told := by
    intro outcome told
    exact absurd (untold.symm.trans told) (by simp)

theorem Shows.apply (h : s.Shows shown) (idle : s.pending = []) (untold : s.outcome = none)
    (within : s.controller.IsWithin event) : (s.apply now event).Shows shown where
  toTells := h.toTells.apply idle untold within
  rise := h.rise
  below := fun g member =>
    Nat.le_trans (h.below g member) (h.filled.rises (step_turn _ now event) within)
  last := fun visible => h.last ((step_turn _ now event).visible h.coherent within visible)

theorem Shows.dispatch (h : s.Shows shown) (idle : s.pending = []) (untold : s.outcome = none)
    (within : s.controller.IsWithin event) (x : σ) :
    Shows (s.dispatch host.recorded event (x, shown)).1
      (s.dispatch host.recorded event (x, shown)).2.2 := by
  rw [dispatch_state]
  exact h.apply idle untold within

theorem Shows.taken (h : s.Shows shown) : s.taken.Shows shown :=
  { h with
    single := .inl rfl
    pending := fun _ _ member => by cases member }

theorem Shows.tell (h : s.Shows shown) (outcome : Outcome) {effect : Effect}
    (pending : s.pending = [effect]) (same : outcome.effect? = some effect) :
    Shows { s.taken with outcome := some outcome } shown :=
  { h.taken with
    single := .inl rfl
    told := by
      rintro _ ⟨⟩
      exact h.pending outcome effect (by simp [pending]) same }

theorem Shows.perform {p : σ × List Gauge} (h : s.Shows p.2) {effect : Effect}
    (pending : s.pending = [effect]) (untold : s.outcome = none) :
    Shows (s.taken.perform host.recorded effect p).1
      (s.taken.perform host.recorded effect p).2.2 := by
  cases effect with
  | createTask => rw [perform_createTask]; exact h.taken.dispatch rfl untold (by nofun) _
  | fetchStatus => rw [perform_fetchStatus]; exact h.taken.dispatch rfl untold (by nofun) _
  | cancelTask => rw [perform_cancelTask]; exact h.taken.dispatch rfl untold (by nofun) _
  | completed result => exact h.tell (.ok (some result)) pending rfl
  | alert why => exact h.tell (.error why) pending rfl

theorem showProgress_recorded (s : Session) (p : σ × List Gauge) :
    (s.showProgress host.recorded p).2.2 =
      if s.controller.gauge = s.shown ∨ s.controller.gauge.visible = false then p.2
      else p.2 ++ [s.controller.gauge] := by
  unfold showProgress
  by_cases same : s.controller.gauge = s.shown
  · simp only [same, true_or, if_true]
    rfl
  · simp only [same, false_or, if_false]
    cases s.controller.gauge.visible <;> rfl

/-- A look at the progress shows it when it has changed. -/
theorem Shows.look {p : σ × List Gauge} (h : s.Shows p.2) :
    s.seen.Shows (s.showProgress host.recorded p).2.2 := by
  rw [showProgress_recorded]
  by_cases same : s.controller.gauge = s.shown
  · rw [if_pos (.inl same)]
    exact { h with last := fun visible => same.trans (h.last visible) }
  cases visible : s.controller.gauge.visible with
  | false =>
      rw [if_pos (.inr rfl)]
      exact { h with last := fun shows => absurd (visible.symm.trans shows) nofun }
  | true =>
      -- The value shown last is the one remembered, also behind looks that showed nothing.
      have last := h.last visible
      rw [if_neg (not_or.mpr ⟨same, nofun⟩)]
      exact {
        toTells := { h.toTells with }
        rise := by
          refine h.rise.concat visible (fun g member equal => ?_) h.below
          rw [last, Option.mem_def.mp member] at same
          exact same equal.symm
        below := by
          refine List.forall_mem_append.mpr ⟨h.below, fun g member => ?_⟩
          rw [List.mem_singleton.mp member]
          exact Nat.le_refl _
        last := fun _ => by rw [List.getLast?_concat]; rfl }

theorem woken_recorded (s : Session) (p : σ × List Gauge) :
    (s.woken host.recorded p).2 = p.2 := by
  unfold woken
  cases s.controller.nextDeadline with
  | none => rfl
  | some due =>
      simp only
      split <;> rfl

theorem Shows.wait {p : σ × List Gauge} (h : s.Shows p.2) (idle : s.pending = [])
    (untold : s.outcome = none) :
    Shows (s.wait host.recorded p).1 (s.wait host.recorded p).2.2 := by
  rw [wait_state]
  exact ((woken_recorded s p).symm ▸ h).dispatch idle untold (by nofun) _

theorem keeps_shows (host : Host (StateM σ)) :
    Keeps host.recorded (fun s p => s.Shows p.2) where
  perform := by
    intro s p effect h pending
    obtain idle | ⟨effect', same, untold⟩ := h.single
    · simp [idle] at pending
    · obtain rfl : effect' = effect := by simpa [same] using pending
      have taken : { s with pending := s.pending.dropLast } = s.taken := by simp [same, Session.taken]
      rw [taken]
      exact h.perform same untold
  look h _ := h.look
  ask h := h
  stop h idle open_ := h.dispatch idle (h.untold open_) (by nofun) _
  wait h idle open_ := h.wait idle (h.untold open_)

theorem shows_opened (source : Media.Source) (now : Time) :
    Shows (Session.apply {} now (.start source (Button.ofSource source))) [] := by
  have turn : Controller.Turn {} now (.start source (Button.ofSource source)) _ _ := .start rfl
  rw [apply_turn (s := {}) turn]
  have filled := (Controller.climbs_started {} (Button.ofSource source)).toFilled
  exact {
    coherent := Controller.coherent_started _ _
    filled := filled
    single := .inr ⟨_, rfl, rfl⟩
    pending := by
      intro outcome effect member same
      have created : effect = .createTask source := by simpa using member
      rw [created] at same
      rcases outcome with why | _ | result <;> simp [Outcome.effect?] at same
    told := fun _ told => by cases told
    rise := Gauge.rise_nil
    below := nofun
    last := fun _ => rfl }

/-- A result is told in the phase of the completion, whose bar is full. -/
theorem Tells.full (h : s.Tells) {result : Media.Result} (ends : s.ended = some (.ok (some result))) :
    s.controller.gauge = ⟨"Done!", 100, true⟩ := by
  have told : s.outcome = some (.ok (some result)) := by
    unfold Session.ended at ends
    split at ends
    · exact ends
    · exact ends
    · cases told : s.outcome <;> simp_all
    · cases told : s.outcome <;> simp_all
    · cases ends
  exact h.filled.completed (h.told _ told)

/-- Of every session on a fresh controller, in any world and after any number of turns. -/
theorem runFor_shows (host : Host (StateM σ)) (fuel : Nat) (source : Media.Source) (x : σ) :
    let ran := runFor host.recorded fuel {} source (x, [])
    Gauge.Rise ran.2.2 ∧
      ∀ result s, ran.1 = some (.ok (some result), s) →
        ran.2.2.getLast? = some ⟨"Done!", 100, true⟩ := by
  obtain ⟨last, shows, ends⟩ := (keeps_shows host).loop
    (x := (host.recorded.now (x, [])).2) (shows_opened source (host.recorded.now (x, [])).1) fuel
  refine ⟨shows.rise, fun result s told => ?_⟩
  obtain ⟨-, ended, looked⟩ := ends _ _ told
  have full := shows.full ended
  have same := shows.last (by rw [full])
  rw [looked, full] at same
  exact Gauge.eq_some_of_getD same rfl

end Session

/-- Within a conversion, from an accepted start to the next one, the bar never goes back, whatever comes
and at whatever times; and a session shows its conversion without a step back, to the full bar if
it ends with a result, in any world and however many turns it is given. -/
theorem progress_never_goes_back :
    (∀ (before during : List (Time × Event)) (asked : Time) (source : Media.Source)
        (button : Button), (Controller.run {} before).1.phase = .idle →
      let started := ((Controller.run {} before).1.step asked (.start source button)).1
      (∀ i ∈ started.incidents during, i.state.IsWithin i.event) →
      started.gauge.percent = 10 ∧ (started.percents during).Pairwise (· ≤ ·) ∧
      ∀ earlier i later, started.incidents during = earlier ++ i :: later →
        Controller.Advances earlier i) ∧
    ∀ {σ : Type} (host : Host (StateM σ)) (fuel : Nat) (source : Media.Source) (x : σ),
      let ran := Session.runFor host.recorded fuel {} source (x, [])
      Gauge.Rise ran.2.2 ∧
        ∀ result s, ran.1 = some (.ok (some result), s) →
          ran.2.2.getLast? = some ⟨"Done!", 100, true⟩ := by
  refine ⟨?_, Session.runFor_shows⟩
  intro before during asked source button rest started within
  have starts : started = (Controller.run {} before).1.started button :=
    congrArg Prod.fst (Controller.Turn.step_eq (.start rest))
  rw [starts] at within ⊢
  obtain ⟨ordered, advances⟩ := (Controller.climbs_started (Controller.run {} before).1 button).run
    (Controller.coherent_started _ button) during within
  exact ⟨rfl, ordered, advances⟩

/-- A script whose second report is the result. -/
def secondTry : Script where
  create := .ok "t"
  status n := .ok { status := if n = 0 then .processing else .completed }

/-- The events of its conversion. -/
def secondTryEvents : List (Time × Event) :=
  [(0, .created secondTry.create), (2000, .tick), (2000, .status "t" (secondTry.status 0)),
    (4000, .tick), (4000, .status "t" (secondTry.status 1))]

/-- Its controller at the start, and what a session makes of it. -/
def secondTryStart : Controller := (Controller.step {} 0 (.start ⟨"a", .cuda⟩ .mp3)).1

def secondTryRan : Option (Outcome × Session) × World × List Gauge :=
  Session.runFor secondTry.unstopped.recorded 100 {} ⟨"a", .cuda⟩ ({}, [])

theorem progress_rises_to_result :
    (∀ i ∈ secondTryStart.incidents secondTryEvents, i.state.IsWithin i.event) ∧
      secondTryStart.percents secondTryEvents = [10, 10, 10, 60, 60, 100] ∧
      (secondTryStart.percents secondTryEvents).Pairwise (· ≤ ·) ∧
      secondTryRan.1.map Prod.fst = some (.ok (some {})) ∧
      secondTryRan.2.2.map Gauge.percent = [10, 60, 100] ∧ Gauge.Rise secondTryRan.2.2 ∧
      secondTryRan.2.2.getLast? = some ⟨"Done!", 100, true⟩ := by
  have within : ∀ i ∈ secondTryStart.incidents secondTryEvents, i.state.IsWithin i.event := by
    unfold secondTryEvents
    simp only [Controller.incidents, List.forall_mem_cons, List.not_mem_nil, false_imp_iff,
      implies_true, and_true]
    refine ⟨?_, ?_, ?_, ?_, ?_⟩ <;> rintro _ _ ⟨⟩
  have told : secondTryRan.1.map Prod.fst = some (.ok (some {})) := by decide +kernel
  obtain ⟨⟨outcome, s⟩, result, rfl⟩ := Option.map_eq_some_iff.mp told
  have percents : secondTryStart.percents secondTryEvents = [10, 10, 10, 60, 60, 100] := by
    decide +kernel
  have lines : secondTryRan.2.2.map Gauge.percent = [10, 60, 100] := by decide +kernel
  obtain ⟨conversions, sessions⟩ := progress_never_goes_back
  have ordered : (secondTryStart.percents secondTryEvents).Pairwise (· ≤ ·) :=
    (conversions [] secondTryEvents 0 ⟨"a", .cuda⟩ .mp3 rfl within).2.1
  have shown := sessions secondTry.unstopped 100 ⟨"a", .cuda⟩ {}
  rw [← secondTryRan] at shown
  exact ⟨within, percents, ordered, told, lines, shown.1, shown.2 {} s result⟩

end KeySheet.Conversion
