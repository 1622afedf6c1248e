import Mathlib.Order.MinMax
import KeySheet.Proofs.Conversion.Coherence
import KeySheet.Proofs.Conversion.SessionTurn

/-! The next deadline tells exactly when a tick does something. Before it a tick changes nothing, and
from it on a tick asks for the status or brings the controller to rest. So the ticks before the
deadline may be left out of a run, as a session does that sleeps towards it. -/
namespace KeySheet.Conversion

namespace Controller

/-- A time at which no deadline has come. -/
def IsEarly (c : Controller) (now : Time) : Prop := ∀ due, c.nextDeadline = some due → now < due

/-- The second list has the events of the first but for some ticks, each of which is early in the
state in which it comes. -/
inductive Skips : Controller → List (Time × Event) → List (Time × Event) → Prop
  | nil {c} : Skips c [] []
  | keep {c now event all kept} : Skips (c.step now event).1 all kept →
      Skips c ((now, event) :: all) ((now, event) :: kept)
  | skip {c now all kept} : c.IsEarly now → Skips (c.step now .tick).1 all kept →
      Skips c ((now, .tick) :: all) kept

variable {c : Controller} {now : Time}

theorem isDue_iff {t : Option Time} : isDue t now = true ↔ ∃ due, t = some due ∧ due ≤ now := by
  cases t <;> simp [isDue]

/-- The earlier of two times has come when one of them has. -/
theorem isDue_earlier (s t : Option Time) (now : Time) :
    isDue (earlier s t) now = (isDue s now || isDue t now) := by
  cases s with
  | none => rfl
  | some a =>
      cases t with
      | none => exact (Bool.or_false _).symm
      | some b =>
          have either : min a b ≤ now ↔ a ≤ now ∨ b ≤ now := min_le_iff
          simp [isDue, earlier, either]

/-- The deadline has come when one of the two things is due that a tick can do. -/
theorem isDue_nextDeadline (c : Controller) (now : Time) :
    isDue c.nextDeadline now = (c.isWaiting && isDue c.nextPoll now || isDue c.resetAt now) := by
  rw [nextDeadline, isDue_earlier]
  cases c.isWaiting <;> rfl

theorem isEarly_iff : c.IsEarly now ↔ isDue c.nextDeadline now = false := by
  rw [← Bool.not_eq_true, isDue_iff]
  constructor
  · rintro early ⟨due, set, come⟩
    exact Nat.not_lt_of_le come (early due set)
  · intro notDue due set
    exact Nat.lt_of_not_le fun come => notDue ⟨due, set, come⟩

theorem IsEarly.tick (h : c.IsEarly now) : c.step now .tick = (c, none) := by
  have notDue := isEarly_iff.mp h
  rw [isDue_nextDeadline, Bool.or_eq_false_iff] at notDue
  refine step_ignored ⟨notDue.2, fun task ⟨heeding, quiet, due⟩ => ?_⟩
  have waiting := isWaiting_iff.mpr ⟨heeding.1, quiet, heeding.2.2⟩
  simp [waiting, due] at notDue

/-- A time to come back to rest is set at the end of a conversion only. -/
theorem Coherent.terminal_of_resetAt (h : c.Coherent) (set : c.resetAt ≠ none) :
    c.phase.isTerminal = true := by
  cases phase : c.phase with
  | idle => exact absurd (h.rests phase).resetAt set
  | submitting => exact absurd (h.submits phase).resetAt set
  | polling => exact absurd (h.polls phase).resetAt set
  | completed | cancelled | failed => rfl

theorem Coherent.tick_due (h : c.Coherent) (due : isDue c.nextDeadline now = true) :
    (∃ task, c.task = some task ∧ (c.step now .tick).2 = some (.fetchStatus task)) ∨
      c.phase.isTerminal = true ∧ (c.step now .tick).1.phase = .idle := by
  rw [isDue_nextDeadline] at due
  cases ended : isDue c.resetAt now with
  | true =>
      obtain ⟨_, set, -⟩ := isDue_iff.mp ended
      have turn : Turn c now .tick _ _ := .reset ended
      refine .inr ⟨h.terminal_of_resetAt (by simp [set]), ?_⟩
      rw [turn.step_eq]
      rfl
  | false =>
      rw [ended, Bool.or_false, Bool.and_eq_true_iff] at due
      obtain ⟨waiting, due⟩ := due
      obtain ⟨polling, quiet, heeding⟩ := isWaiting_iff.mp waiting
      obtain ⟨task, same⟩ := Option.ne_none_iff_exists'.mp (h.polls polling).task
      have turn : Turn c now .tick _ _ := .poll ended ⟨polling, same, heeding⟩ quiet due
      exact .inl ⟨task, same, congrArg Prod.snd turn.step_eq⟩

/-- Ticks that come too early leave a run as it is. -/
theorem Skips.run {all kept : List (Time × Event)} (h : c.Skips all kept) :
    c.run all = c.run kept := by
  induction h with
  | nil => rfl
  | keep _ ih => rw [run_cons, run_cons, ih]
  | skip early _ ih =>
      rw [run_cons, ih, early.tick]
      rfl

theorem skips_ticks {times : List Time} (early : ∀ t ∈ times, c.IsEarly t)
    (rest : List (Time × Event)) : c.Skips (times.map (·, .tick) ++ rest) rest := by
  induction times with
  | nil =>
      -- No ticks are left to skip, and all the rest is kept.
      induction rest generalizing c with
      | nil => exact .nil
      | cons head rest ih => exact .keep (ih (by simp))
  | cons t times ih =>
      obtain ⟨first, later⟩ := List.forall_mem_cons.mp early
      -- The tick changes nothing, so that the others are early behind it as well.
      refine .skip first ?_
      rw [first.tick]
      exact ih later

end Controller

namespace Session

variable {script : Script} {wanted : World → Bool}

theorem wait_host_none {s : Session} (h : s.controller.nextDeadline = none) (w : World) :
    s.wait (script.host wanted) w = (s.apply w.clock .tick, w) := by
  rw [wait_state, woken_host, h]
  rfl

/-- No sleep goes beyond the deadline. -/
theorem sleepTo_early {w : World} {due t : Time} (awake : w.clock ≤ t)
    (asleep : t < (w.sleepTo due).clock) : t < due := by
  unfold World.sleepTo at asleep
  by_cases before : w.clock < due
  · rw [if_pos before] at asleep
    have far := Nat.lt_of_lt_of_le asleep (Nat.add_le_add_left (Nat.min_le_left _ _) _)
    rwa [Nat.add_sub_of_le (Nat.le_of_lt before)] at far
  · rw [if_neg before] at asleep
    exact absurd awake (Nat.not_le_of_lt asleep)

/-- A session that sleeps leaves out early ticks only. -/
theorem wait_skips (s : Session) (w : World) {times : List Time}
    (slept : ∀ t ∈ times, w.clock ≤ t ∧ t < (s.wait (script.host wanted) w).2.clock) :
    ∀ t ∈ times, s.controller.IsEarly t := by
  intro t member
  obtain ⟨awake, asleep⟩ := slept t member
  cases set : s.controller.nextDeadline with
  | none =>
      rw [wait_host_none set] at asleep
      exact absurd awake (Nat.not_le_of_lt asleep)
  | some due =>
      rw [wait_host set] at asleep
      intro due' same
      obtain rfl := Option.some.inj (set.symm.trans same)
      exact sleepTo_early awake asleep

theorem wait_controller (s : Session) (w : World) :
    (s.wait (script.host wanted) w).1.controller =
      (s.controller.step (s.wait (script.host wanted) w).2.clock .tick).1 := by
  cases set : s.controller.nextDeadline with
  | none => rw [wait_host_none set]; rfl
  | some due => rw [wait_host set]; rfl

end Session

namespace Controller

/-- In every state that a controller can come to, a tick does something from the next deadline on and
not before, and nothing at all when there is none. So early ticks may be left out of a run wherever
they come; a session that sleeps does not do otherwise than one that ticks in its sleep. -/
theorem run_deadline (events : List (Time × Event)) :
    let c := (run {} events).1
    (c.nextDeadline = none → ∀ now, c.step now .tick = (c, none)) ∧
    (∀ due, c.nextDeadline = some due →
      (∀ now, now < due → c.step now .tick = (c, none)) ∧
      ∀ now, due ≤ now →
        (∃ task, c.task = some task ∧ (c.step now .tick).2 = some (.fetchStatus task)) ∨
          c.phase.isTerminal = true ∧ (c.step now .tick).1.phase = .idle) ∧
    (∀ all kept, c.Skips all kept → c.run all = c.run kept) ∧
    ∀ script wanted (s : Session) (w : World) (times : List Time), s.controller = c →
      let woken := s.wait (Script.host script wanted) w
      (∀ t ∈ times, w.clock ≤ t ∧ t < woken.2.clock) →
      (c.run (times.map (·, .tick) ++ [(woken.2.clock, .tick)])).1 = woken.1.controller := by
  intro c
  have coherent : c.Coherent := coherent_fresh.run events
  refine ⟨fun none now => ?_, fun due set => ⟨fun now before => ?_, fun now come => ?_⟩,
    fun _ _ skips => skips.run, ?_⟩
  · exact IsEarly.tick fun due set => by simp [none] at set
  · refine IsEarly.tick fun due' set' => ?_
    obtain rfl := Option.some.inj (set.symm.trans set')
    exact before
  · exact coherent.tick_due (isDue_iff.mpr ⟨due, set, come⟩)
  · intro script wanted s w times same woken slept
    have early := Session.wait_skips s w slept
    rw [same] at early
    rw [(skips_ticks early _).run, Session.wait_controller, same]
    rfl

end Controller

end KeySheet.Conversion
