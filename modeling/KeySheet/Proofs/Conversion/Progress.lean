import Mathlib.Data.List.Chain
import KeySheet.Proofs.Conversion.Polling

/-! The bar of a conversion never goes back. It begins at ten percent, each report that decides nothing
sets it by the number of reports before, and only the completion brings it to its end. The counts
stay so small that words of 32 bits compute them exactly. -/
namespace KeySheet.Conversion

open Media (StatusReport)

/-- The percent in words of 32 bits, cut to one of 8. -/
def percentWord (attempt : UInt32) : UInt8 :=
  let percent := 60 + attempt * 30 / 300
  (if percent ≤ 90 then percent else 90).toUInt8

namespace Controller

theorem percentAt_mono {m n : Nat} (h : m ≤ n) : percentAt m ≤ percentAt n := by
  unfold percentAt
  have more : m * 30 / maxAttempts ≤ n * 30 / maxAttempts :=
    Nat.div_le_div_right (Nat.mul_le_mul_right 30 h)
  omega

/-- Within the patience of a conversion the bar stays below its cap. -/
theorem percentAt_eq {n : Nat} (h : n < 300) : percentAt n = 60 + 30 * n / 300 := by
  unfold percentAt maxAttempts
  omega

theorem percentAt_lt {n : Nat} (h : n < 300) : percentAt n < 90 := by
  rw [percentAt_eq h]
  omega

theorem percentAt_le (n : Nat) : percentAt n ≤ 100 :=
  Nat.le_trans (Nat.min_le_right _ _) (by decide)

theorem words_suffice {n : Nat} (h : n ≤ 300) :
    n + 1 < UInt32.size ∧ n * 30 < UInt32.size ∧ 60 + n * 30 / 300 < UInt32.size ∧
      percentAt n < UInt8.size := by
  have byte := percentAt_le n
  unfold UInt32.size UInt8.size
  omega

/-- No word overflows on the way, so the words come to the same percent. -/
theorem percentWord_exact {n : Nat} (h : n ≤ 300) :
    (percentWord (UInt32.ofNat n)).toNat = percentAt n := by
  have word : (UInt32.ofNat n).toNat = n := UInt32.toNat_ofNat_of_lt (by unfold UInt32.size; omega)
  have product : (UInt32.ofNat n * 30).toNat = n * 30 := by
    rw [UInt32.toNat_mul, word]
    exact Nat.mod_eq_of_lt (by simp only [UInt32.reduceToNat]; omega)
  have sum : (60 + UInt32.ofNat n * 30 / 300).toNat = 60 + n * 30 / 300 := by
    rw [UInt32.toNat_add, UInt32.toNat_div, product]
    exact Nat.mod_eq_of_lt (by simp only [UInt32.reduceToNat]; omega)
  have capped : (if 60 + UInt32.ofNat n * 30 / 300 ≤ 90 then 60 + UInt32.ofNat n * 30 / 300
      else 90).toNat = percentAt n := by
    simp only [percentAt, maxAttempts, apply_ite UInt32.toNat, UInt32.le_iff_toNat_le, sum]
    exact (min_def _ _).symm
  rw [percentWord, UInt32.toNat_toUInt8, capped]
  exact Nat.mod_eq_of_lt (Nat.lt_of_le_of_lt (Nat.min_le_right _ _) (by decide))

open Incident

/-- The bar is not ahead of the reports while the task runs, and full with the completion. -/
structure Filled (c : Controller) : Prop where
  running : c.phase.isRunning = true → c.gauge.percent ≤ percentAt c.attempts
  completed : c.phase = .completed → c.gauge = ⟨"Done!", 100, true⟩
  bounded : c.gauge.percent ≤ 100

/-- The event begins no other conversion. -/
def IsWithin (c : Controller) (event : Event) : Prop :=
  ∀ source button, event = .start source button → c.phase ≠ .idle

variable {past : List Incident} {c next : Controller} {now : Time} {event : Event}
  {effect : Option Effect}

/-- Apart from a start, only a report on the task at hand moves the bar. -/
theorem Turn.percent (turn : Turn c now event next effect) (within : c.IsWithin event) :
    next.gauge.percent = c.gauge.percent ∨
      (∃ task, c.isHeeding task ∧ next.gauge.percent = percentAt c.attempts) ∨
      ∃ task, c.isHeeding task ∧ next.phase = .completed ∧ next.gauge = ⟨"Done!", 100, true⟩ := by
  cases turn with
  | start idle => exact absurd idle (within _ _ rfl)
  | completed heeding => exact .inr (.inr ⟨_, heeding, rfl, rfl⟩)
  | @undecided task answer heeding | @timedOut task answer heeding =>
      cases answer with
      | ok report => exact .inr (.inl ⟨task, heeding, rfl⟩)
      | error e => exact .inl rfl
  | _ => exact .inl rfl

/-- Apart from a start, only an accepted report counts. -/
theorem Turn.attempts (turn : Turn c now event next effect) (within : c.IsWithin event) :
    next.attempts = c.attempts + [(⟨c, now, event⟩ : Incident)].countP isReport := by
  cases turn with
  | ignored ignores => simp [isReport, ignores.nothing.1]
  | start idle => exact absurd idle (within _ _ rfl)
  | muted _ _ stopping => simp [isReport, report?, stopping]
  | completed heeding | cancelled heeding | failed heeding | undecided heeding
    | timedOut heeding =>
      simp only [List.countP_singleton, isReport, report_heeding heeding]
      rfl
  | _ => rfl

theorem Filled.rises (h : c.Filled) (turn : Turn c now event next effect) (within : c.IsWithin event) :
    c.gauge.percent ≤ next.gauge.percent := by
  obtain same | ⟨task, heeding, same⟩ | ⟨task, heeding, -, same⟩ := turn.percent within
  · exact Nat.le_of_eq same.symm
  · rw [same]
    exact h.running (by simp only [heeding.1, Phase.isRunning])
  · rw [same]
    exact h.bounded

theorem Filled.turn (h : c.Filled) (turn : Turn c now event next effect) (within : c.IsWithin event) :
    next.Filled where
  running := by
    cases turn with
    | ignored => exact h.running
    | start idle => exact absurd idle (within _ _ rfl)
    | created submitting =>
        intro _
        exact h.running (by simp only [submitting, Phase.isRunning])
    | muted | stop | poll => exact h.running
    | @undecided task answer heeding =>
        intro _
        have more := percentAt_mono (Nat.le_succ c.attempts)
        cases answer with
        | ok report => exact more
        | error e => exact Nat.le_trans (h.running (by simp only [heeding.1, Phase.isRunning])) more
    | _ => rintro ⟨⟩
  completed := by
    cases turn with
    | ignored | muted | stop | poll => exact h.completed
    | undecided heeding => simp [heard, heeding.1]
    | completed => exact fun _ => rfl
    | _ => rintro ⟨⟩
  bounded := by
    obtain same | ⟨task, -, same⟩ | ⟨task, -, -, same⟩ := turn.percent within
    · exact same ▸ h.bounded
    · exact same ▸ percentAt_le _
    · exact same ▸ Nat.le_refl _

/-- The count of reports and the bar as an account of what has happened since the start. -/
structure Climbs (past : List Incident) (c : Controller) : Prop extends Filled c where
  attempts : c.attempts = past.countP isReport
  patience : c.attempts ≤ 300
  low : (∀ i ∈ past, i.next.phase ≠ .completed) → c.gauge.percent < 90

theorem climbs_started (c : Controller) (button : Button) : Climbs [] (c.started button) where
  running _ := show 10 ≤ percentAt 0 by decide
  completed ended := by cases ended
  bounded := show 10 ≤ 100 by decide
  attempts := rfl
  patience := Nat.zero_le _
  low _ := show 10 < 90 by decide

theorem Climbs.turn (h : Climbs past c) (coherent : c.Coherent)
    (turn : Turn c now event next effect) (within : c.IsWithin event) :
    Climbs (past ++ [⟨c, now, event⟩]) next where
  toFilled := h.toFilled.turn turn within
  attempts := by rw [turn.attempts within, h.attempts, List.countP_append]
  patience := by
    rw [turn.attempts within, List.countP_singleton]
    split
    · next accepted =>
      obtain ⟨answer, same⟩ := Option.isSome_iff_exists.mp accepted
      obtain ⟨task, -, heeding⟩ := report_eq_some same
      exact (coherent.polls heeding.1).attempts
    · exact h.patience
  low := by
    intro never
    obtain ⟨before, now⟩ := List.forall_mem_append.mp never
    obtain same | ⟨task, heeding, same⟩ | ⟨task, -, completed, -⟩ := turn.percent within
    · exact same ▸ h.low before
    · exact same ▸ percentAt_lt (coherent.polls heeding.1).attempts
    · exact absurd (turn.next_eq ▸ completed) (now _ (List.mem_singleton_self _))

/-- What one event of a conversion does to the bar, by what was before it. -/
structure Advances (past : List Incident) (i : Incident) : Prop where
  rises : i.state.gauge.percent ≤ i.next.gauge.percent
  /-- The reports before this one set the bar, failed ones among them. -/
  undecided : ∀ report, i.report? = some (.ok report) → isDecisive (.ok report) = false →
    i.next.gauge.percent = 60 + 30 * past.countP isReport / 300
  low : (∀ j ∈ past ++ [i], j.next.phase ≠ .completed) → i.next.gauge.percent < 90
  completed : i.next.phase = .completed → i.next.gauge.percent = 100
  bounded : i.next.gauge.percent ≤ 100
  /-- The count and the percent stay within their words. -/
  noOverflow : i.state.attempts + 1 < UInt32.size ∧ i.state.attempts * 30 < UInt32.size ∧
    60 + i.state.attempts * 30 / 300 < UInt32.size ∧ percentAt i.state.attempts < UInt8.size
  words : (percentWord (UInt32.ofNat i.state.attempts)).toNat = percentAt i.state.attempts

theorem Climbs.advances (h : Climbs past c) (coherent : c.Coherent)
    (turn : Turn c now event next effect) (within : c.IsWithin event) :
    Advances past ⟨c, now, event⟩ := by
  have after := h.turn coherent turn within
  have small := h.patience
  rw [← turn.next_eq] at after
  exact {
    rises := turn.next_eq ▸ h.rises turn within
    undecided := by
      intro report accepted undecided
      obtain ⟨task, rfl, heeding⟩ := report_eq_some accepted
      have left := (coherent.polls heeding.1).attempts
      rw [← h.attempts, ← percentAt_eq left]
      -- The report that ends patience moves the bar like any other, though the end hides it.
      by_cases spent : maxAttempts ≤ c.attempts + 1
      · have timedOut : Turn c now (.status task (.ok report)) _ _ := .timedOut heeding undecided spent
        rw [timedOut.next_eq]
        rfl
      · have goesOn : Turn c now (.status task (.ok report)) _ _ :=
          .undecided heeding undecided (Nat.lt_of_not_le spent)
        rw [goesOn.next_eq]
        rfl
    low := after.low
    completed := fun ended => by rw [after.completed ended]
    bounded := after.bounded
    noOverflow := words_suffice small
    words := percentWord_exact small }

/-- The percents of a run, behind the one it begins with. -/
def percents (c : Controller) (events : List (Time × Event)) : List Nat :=
  c.gauge.percent :: (c.incidents events).map (·.next.gauge.percent)

theorem Climbs.run (h : Climbs past c) (coherent : c.Coherent) (events : List (Time × Event))
    (within : ∀ i ∈ c.incidents events, i.state.IsWithin i.event) :
    (c.percents events).Pairwise (· ≤ ·) ∧
      ∀ before i after, c.incidents events = before ++ i :: after → Advances (past ++ before) i := by
  -- On the events, with the account of the past growing by each of them.
  induction events generalizing past c with
  | nil =>
      refine ⟨List.pairwise_singleton _ _, fun before i after split => ?_⟩
      simp [incidents] at split
  | cons head rest ih =>
      obtain ⟨now, event⟩ := head
      obtain ⟨withinNow, withinLater⟩ := List.forall_mem_cons.mp within
      have turn := step_turn c now event
      have advances := h.advances coherent turn withinNow
      obtain ⟨ordered, later⟩ :=
        ih (h.turn coherent turn withinNow) (coherent.turn turn) withinLater
      constructor
      · refine List.pairwise_cons.mpr ⟨?_, ordered⟩
        have first := (List.pairwise_cons.mp ordered).1
        exact List.forall_mem_cons.mpr
          ⟨advances.rises, fun p member => Nat.le_trans advances.rises (first p member)⟩
      · intro before i after split
        cases before with
        | nil =>
            obtain ⟨rfl, -⟩ := List.cons.inj split
            rwa [List.append_nil]
        | cons first before =>
            obtain ⟨rfl, same⟩ := List.cons.inj split
            have law := later before i after same
            rwa [List.append_assoc] at law

end Controller

end KeySheet.Conversion
