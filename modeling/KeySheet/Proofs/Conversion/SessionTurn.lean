import KeySheet.Proofs.Conversion.Driver
import KeySheet.Proofs.Conversion.Script

/-! One turn of a session in a scripted world: it carries out the effect that is pending, or ends,
or passes on the wish to stop, or sleeps towards the next deadline. The world a turn leaves behind
is given in each case, so that a whole session is a chain of turns. -/
namespace KeySheet.Conversion

namespace World

/-- The progress is shown if it has changed and is to be seen. -/
def see (w : World) (s : Session) : World :=
  if s.controller.gauge = s.shown then w
  else if s.controller.gauge.visible then { w with shown := w.shown ++ [s.controller.gauge] }
  else w

def sleepTo (w : World) (deadline : Time) : World :=
  if w.clock < deadline then
    { w with
      clock := w.clock + min (deadline - w.clock) maxSleep
      sleeps := w.sleeps + 1 }
  else w

/-- The world after a sleep that is as long as a sleep can be. -/
def later (w : World) : World := { w with clock := w.clock + 100, sleeps := w.sleeps + 1 }

/-- Time has passed in a number of sleeps, and nothing was asked for. -/
structure Slept (n : Nat) (w w' : World) : Prop where
  clock : w'.clock = w.clock + 100 * n
  sleeps : w'.sleeps = w.sleeps + n
  created : w'.created = w.created
  polled : w'.polled = w.polled
  stopped : w'.stopped = w.stopped

theorem Slept.refl (w : World) : Slept 0 w w := ⟨rfl, rfl, rfl, rfl, rfl⟩

theorem Slept.trans {n n' : Nat} {w w' w'' : World} (h : Slept n w w') (h' : Slept n' w' w'') :
    Slept (n + n') w w'' where
  clock := by rw [h'.clock, h.clock, Nat.add_assoc, Nat.mul_add]
  sleeps := by rw [h'.sleeps, h.sleeps, Nat.add_assoc]
  created := h'.created.trans h.created
  polled := h'.polled.trans h.polled
  stopped := h'.stopped.trans h.stopped

/-- What has been looked at is not shown again. -/
theorem see_seen (w : World) (s : Session) : w.see s.seen = w := if_pos rfl

theorem slept_see (w : World) (s : Session) : Slept 0 w (w.see s) := by
  unfold see
  split
  · exact .refl w
  · split
    · exact ⟨rfl, rfl, rfl, rfl, rfl⟩
    · exact .refl w

/-- With a whole number of sleeps left, the next one is as long as a sleep can be. -/
theorem whole_sleep (clock n : Nat) :
    clock < clock + 100 * (n + 1) ∧ min (clock + 100 * (n + 1) - clock) maxSleep = 100 := by
  unfold maxSleep
  omega

theorem sleepTo_whole (w : World) (n : Nat) : w.sleepTo (w.clock + 100 * (n + 1)) = w.later := by
  obtain ⟨early, whole⟩ := whole_sleep w.clock n
  rw [sleepTo, if_pos early, whole, later]

theorem slept_sleepTo (w : World) (n : Nat) :
    Slept 1 w (w.sleepTo (w.clock + 100 * (n + 1))) := by
  rw [sleepTo_whole]
  exact ⟨rfl, rfl, rfl, rfl, rfl⟩

end World

namespace Session

variable {script : Script} {wanted : World → Bool} {s : Session} {w : World}

theorem dispatch_host (s : Session) (event : Event) (w : World) :
    s.dispatch (script.host wanted) event w = (s.apply w.clock event, w) := rfl

theorem perform_completed (s : Session) (result : Media.Result) (w : World) :
    s.perform (script.host wanted) (.completed result) w =
      ({ s with outcome := some (.ok (some result)) }, w) := rfl

theorem perform_alert (s : Session) (why : Failure) (w : World) :
    s.perform (script.host wanted) (.alert why) w =
      ({ s with outcome := some (.error why) }, w) := rfl

theorem showProgress_host (s : Session) (w : World) :
    s.showProgress (script.host wanted) w = (s.seen, w.see s) := by
  refine Prod.ext (showProgress_fst s w) ?_
  unfold showProgress World.see
  by_cases same : s.controller.gauge = s.shown
  · simp only [same, if_true]
    rfl
  · simp only [same, if_false]
    cases s.controller.gauge.visible <;> rfl

theorem woken_host (s : Session) (w : World) :
    s.woken (script.host wanted) w = s.controller.nextDeadline.elim w w.sleepTo := by
  unfold woken
  cases s.controller.nextDeadline with
  | none => rfl
  | some due =>
      by_cases early : w.clock < due
      · exact (if_pos early).trans (if_pos early).symm
      · exact (if_neg early).trans (if_neg early).symm

theorem wait_host {deadline : Time} (h : s.controller.nextDeadline = some deadline) (w : World) :
    s.wait (script.host wanted) w =
      (s.apply (w.sleepTo deadline).clock .tick, w.sleepTo deadline) := by
  rw [wait_state, woken_host, h]
  rfl

/-- The effect that is pending is carried out before anything else. -/
theorem loop_perform {effect : Effect} (h : s.pending = [effect]) (fuel : Nat) (w : World) :
    loop (script.host wanted) (fuel + 1) s w =
      loop (script.host wanted) fuel (s.taken.perform (script.host wanted) effect w).1
        (s.taken.perform (script.host wanted) effect w).2 := by
  rw [loop_pending (by rw [h]; rfl), h]
  rfl

theorem loop_ended {outcome : Outcome} (idle : s.pending = []) (h : s.ended = some outcome)
    (fuel : Nat) (w : World) :
    loop (script.host wanted) (fuel + 1) s w = (some (outcome, s.seen), w.see s) := by
  rw [loop_end idle h, showProgress_host]

theorem loop_wait (idle : s.pending = []) (h : s.ended = none) (unwanted : wanted (w.see s) = false)
    (fuel : Nat) :
    loop (script.host wanted) (fuel + 1) s w =
      loop (script.host wanted) fuel (s.seen.wait (script.host wanted) (w.see s)).1
        (s.seen.wait (script.host wanted) (w.see s)).2 := by
  have asked : (script.host wanted).stopWanted (w.see s) = (false, w.see s) :=
    congrArg (·, w.see s) unwanted
  rw [loop_open idle h, showProgress_host, asked]
  rfl

theorem loop_stop (idle : s.pending = []) (h : s.ended = none) (wants : wanted (w.see s) = true)
    (heeding : s.controller.stopping = false) (fuel : Nat) :
    loop (script.host wanted) (fuel + 1) s w =
      loop (script.host wanted) fuel (s.seen.apply (w.see s).clock .stop) (w.see s) := by
  have asked : (script.host wanted).stopWanted (w.see s) = (true, w.see s) :=
    congrArg (·, w.see s) wants
  rw [loop_open idle h, showProgress_host, asked, heeding]
  rfl

end Session

end KeySheet.Conversion
