import KeySheet.Proofs.Conversion.Incident

/-! How a conversion asks for its status. From the start until the controller is at rest again each
question is about the task that was created, waits for the report on the one before, and keeps its
distance from the last report; the three hundredth report ends the conversion, by what it says or by
the end of patience. -/
namespace KeySheet.Conversion

open Media (StatusReport)

namespace Controller

open Incident

/-- The states in which the events of a run come. -/
def incidents (c : Controller) : List (Time × Event) → List Incident
  | [] => []
  | (now, event) :: rest => ⟨c, now, event⟩ :: (c.step now event).1.incidents rest

/-- A question will be asked without another report: one is set for a time, or will be when the task is
there. -/
def owes (c : Controller) : Nat := if c.phase = .submitting ∨ c.nextPoll ≠ none then 1 else 0

/-- The fields of a controller as an account of what has happened since the start. -/
structure Accounts (past : List Incident) (c : Controller) : Prop where
  attempts : c.attempts = past.countP isReport
  patience : c.attempts ≤ 300
  task : past.filterMap created? = c.task.toList
  own : ∀ i ∈ past, ∀ task, i.effect = some (.fetchStatus task) → c.task = some task
  budget : past.countP isFetch + c.owes ≤ c.attempts + 1
  few : past.countP isFetch ≤ 300
  due : ∀ due, c.nextPoll = some due → ∃ heard, lastHeard past = some heard ∧ due = heard + 2000
  answered : c.awaiting = false → Answered past

variable {past : List Incident} {c next : Controller} {i : Incident} {now : Time} {event : Event}
  {effect : Option Effect}

theorem accounts_started (c : Controller) (button : Button) : Accounts [] (c.started button) where
  attempts := rfl
  patience := Nat.zero_le _
  task := rfl
  own := by simp
  budget := Nat.le_refl _
  few := Nat.zero_le _
  due := nofun
  answered _ := by
    intro before i after task split
    simp at split

theorem isFetch_eq_false (noFetch : ∀ task, i.effect ≠ some (.fetchStatus task)) :
    i.isFetch = false := by
  unfold isFetch
  cases same : i.effect with
  | none => rfl
  | some effect =>
      cases effect with
      | fetchStatus task => exact absurd same (noFetch task)
      | _ => rfl

/-- An event that is neither a creation, a report nor a question leaves the account as it was. -/
theorem Accounts.other (h : Accounts past c) (noReport : i.report? = none)
    (notCreated : i.created? = none) (noFetch : ∀ task, i.effect ≠ some (.fetchStatus task))
    (attempts : next.attempts = c.attempts) (task : next.task = c.task) (owes : next.owes ≤ c.owes)
    (nextPoll : next.nextPoll = none ∨ next.nextPoll = c.nextPoll)
    (answered : next.awaiting = false → Answered (past ++ [i])) : Accounts (past ++ [i]) next where
  attempts := by simp [attempts, h.attempts, isReport, noReport]
  patience := attempts ▸ h.patience
  task := by simp [task, h.task, notCreated]
  own := by
    intro j member asked asks
    rcases List.mem_append.mp member with old | new
    · exact task.trans (h.own j old asked asks)
    · exact absurd (List.mem_singleton.mp new ▸ asks) (noFetch asked)
  budget := by
    have before := h.budget
    simp only [List.countP_append, List.countP_singleton, isFetch_eq_false noFetch, attempts]
    simp only [Bool.false_eq_true, if_false]
    omega
  few := by simpa [isFetch_eq_false noFetch] using h.few
  due := by
    intro due set
    rw [lastHeard_other noReport notCreated]
    rcases nextPoll with none | same
    · simp [none] at set
    · exact h.due due (same ▸ set)
  answered := answered

/-- The account after the creation of the task. -/
theorem Accounts.created (h : Accounts past c) (submits : c.Submits)
    (submitting : c.phase = .submitting) (task : TaskId) :
    Accounts (past ++ [⟨c, now, .created (.ok task)⟩])
      { c with phase := .polling, task := some task, nextPoll := some (now + pollInterval) } := by
  have none : past.countP isReport = 0 := h.attempts.symm.trans submits.attempts
  have created : created? ⟨c, now, .created (.ok task)⟩ = some task := if_pos submitting
  have silent : Incident.effect ⟨c, now, .created (.ok task)⟩ = Option.none :=
    congrArg Prod.snd (Turn.step_eq (.created submitting))
  have noFetch : ∀ asked, Incident.effect ⟨c, now, .created (.ok task)⟩ ≠ some (.fetchStatus asked) := by
    simp [silent]
  have unasked : ∀ i ∈ past, ∀ asked, i.effect ≠ some (.fetchStatus asked) := by
    intro i member asked asks
    simpa [submits.task] using h.own i member asked asks
  exact {
    attempts := by simp [h.attempts, isReport, report?]
    patience := h.patience
    task := by simp [h.task, submits.task, created]
    own := by
      intro i member asked asks
      rcases List.mem_append.mp member with old | new
      · exact absurd asks (unasked i old asked)
      · exact absurd (List.mem_singleton.mp new ▸ asks) (noFetch asked)
    budget := by
      have before := h.budget
      simpa [List.countP_append, isFetch_eq_false noFetch, Controller.owes, submitting] using before
    few := by simpa [isFetch_eq_false noFetch] using h.few
    due := by
      intro due set
      obtain rfl := Option.some.inj set
      exact ⟨now, lastHeard_created none rfl (by simp [created]), rfl⟩
    answered := fun quiet => (h.answered quiet).other noFetch }

/-- The account after a report on the task at hand. -/
theorem Accounts.report (h : Accounts past c) {task : TaskId} (heeding : c.isHeeding task)
    (left : c.attempts < 300) {answer : Except Backend.Failure StatusReport}
    (noFetch : ∀ task', Incident.effect ⟨c, now, .status task answer⟩ ≠ some (.fetchStatus task'))
    (attempts : next.attempts = c.attempts + 1) (same : next.task = c.task)
    (nextPoll : next.nextPoll = none ∨ next.nextPoll = some (now + pollInterval)) :
    Accounts (past ++ [⟨c, now, .status task answer⟩]) next := by
  have accepted : isReport ⟨c, now, .status task answer⟩ = true := by
    rw [isReport, report_heeding heeding]
    rfl
  exact {
    attempts := by simp [attempts, h.attempts, accepted]
    patience := attempts ▸ left
    task := by simp [same, h.task, created?]
    own := by
      intro i member asked asks
      rcases List.mem_append.mp member with old | new
      · exact same.trans (h.own i old asked asks)
      · exact absurd (List.mem_singleton.mp new ▸ asks) (noFetch asked)
    budget := by
      have before := h.budget
      have one : next.owes ≤ 1 := by unfold Controller.owes; split <;> omega
      simp only [List.countP_append, List.countP_singleton, isFetch_eq_false noFetch, attempts]
      simp only [Bool.false_eq_true, if_false]
      omega
    few := by simpa [isFetch_eq_false noFetch] using h.few
    due := by
      intro due set
      rcases nextPoll with none | later
      · simp [none] at set
      · exact ⟨now, lastHeard_report accepted, Option.some.inj (set.symm.trans later)⟩
    answered := by
      intro _
      refine answered_by (fun i member asked asks => ?_) rfl noFetch
      exact Option.some.inj ((h.own i member asked asks).symm.trans heeding.2.1) }

/-- The account after a question. -/
theorem Accounts.fetch (h : Accounts past c) {task : TaskId} (heeding : c.isHeeding task)
    (left : c.attempts < 300) (set : c.nextPoll ≠ none)
    (asks : Incident.effect ⟨c, now, .tick⟩ = some (.fetchStatus task)) :
    Accounts (past ++ [⟨c, now, .tick⟩]) { c with awaiting := true, nextPoll := none } := by
  have fetch : isFetch ⟨c, now, .tick⟩ = true := by
    rw [isFetch, asks]
    rfl
  have spent : past.countP isFetch + 1 ≤ c.attempts + 1 := by
    have before := h.budget
    rwa [Controller.owes, if_pos (.inr set)] at before
  exact {
    attempts := by simp [h.attempts, isReport, report?]
    patience := h.patience
    task := by simp [h.task, created?]
    own := by
      intro i member asked asked_for
      rcases List.mem_append.mp member with old | new
      · exact h.own i old asked asked_for
      · obtain rfl := List.mem_singleton.mp new
        obtain rfl : task = asked := by simpa [asks] using asked_for
        exact heeding.2.1
    budget := by simpa [fetch, Controller.owes, heeding.1] using spent
    few := by
      simp only [List.countP_append, List.countP_singleton, fetch, if_true]
      omega
    due := nofun
    answered := nofun }

theorem Turn.effect_eq (turn : Turn c now event next effect) :
    Incident.effect ⟨c, now, event⟩ = effect := congrArg Prod.snd turn.step_eq

theorem Turn.next_eq (turn : Turn c now event next effect) :
    Incident.next ⟨c, now, event⟩ = next := congrArg Prod.fst turn.step_eq

theorem Ignores.nothing (h : c.Ignores now event) :
    report? ⟨c, now, event⟩ = none ∧ created? ⟨c, now, event⟩ = none := by
  cases event with
  | created answer =>
      cases answer with
      | ok task => exact ⟨rfl, if_neg h⟩
      | error e => exact ⟨rfl, rfl⟩
  | status task answer => exact ⟨if_neg fun heeding => h ⟨heeding.1, heeding.2.1⟩, rfl⟩
  | _ => exact ⟨rfl, rfl⟩

theorem Accounts.turn (h : Accounts past c) (coherent : c.Coherent) (busy : c.phase ≠ .idle)
    (turn : Turn c now event next effect) (away : next.phase ≠ .idle) :
    Accounts (past ++ [⟨c, now, event⟩]) next := by
  have asked := turn.effect_eq
  cases turn with
  | ignored ignores =>
      obtain ⟨noReport, notCreated⟩ := ignores.nothing
      exact h.other noReport notCreated (by simp [asked]) rfl rfl (Nat.le_refl _) (.inr rfl)
        fun quiet => (h.answered quiet).other (by simp [asked])
  | start idle => exact absurd idle busy
  | created submitting => exact h.created (coherent.submits submitting) submitting _
  | refused submitting =>
      exact h.other rfl rfl (by simp [asked]) rfl rfl (Nat.zero_le _) (.inl rfl)
        fun _ => (h.answered (coherent.submits submitting).quiet).other (by simp [asked])
  | @muted task answer polling same stopping =>
      refine h.other ?_ rfl (by simp [asked]) rfl rfl (Nat.le_refl _) (.inr rfl) fun _ => ?_
      · exact if_neg fun heeding => by simp [stopping] at heeding
      · refine answered_by (fun i member asked asks => ?_) rfl (by simp [asked])
        exact Option.some.inj ((h.own i member asked asks).symm.trans same)
  | completed heeding =>
      exact h.report heeding (coherent.polls heeding.1).attempts (by simp [asked]) rfl rfl
        (.inl rfl)
  | cancelled heeding =>
      exact h.report heeding (coherent.polls heeding.1).attempts (by simp [asked]) rfl rfl
        (.inl rfl)
  | failed heeding =>
      exact h.report heeding (coherent.polls heeding.1).attempts (by simp [asked]) rfl rfl
        (.inl rfl)
  | undecided heeding =>
      exact h.report heeding (coherent.polls heeding.1).attempts (by simp [asked]) rfl rfl
        (.inr rfl)
  | timedOut heeding =>
      exact h.report heeding (coherent.polls heeding.1).attempts (by simp [asked]) rfl rfl
        (.inl rfl)
  | stop heeding =>
      exact h.other rfl rfl (by simp [asked]) rfl rfl (Nat.le_refl _) (.inr rfl)
        fun quiet => (h.answered quiet).other (by simp [asked])
  | stopped =>
      exact h.other rfl rfl (by simp [asked]) rfl rfl (Nat.zero_le _) (.inl rfl)
        fun quiet => (h.answered quiet).other (by simp [asked])
  | reset => exact absurd rfl away
  | poll _ heeding quiet due =>
      have set : c.nextPoll ≠ none := by
        intro none
        simp [none, isDue] at due
      exact h.fetch heeding (coherent.polls heeding.1).attempts set asked

/-- The three hundredth report that decides nothing, and it alone, brings the end of patience. -/
theorem Accounts.endsPatience_iff (h : Accounts past c) (coherent : c.Coherent)
    (turn : Turn c now event next effect) :
    EndsPatience past ⟨c, now, event⟩ ↔ effect = some (.alert .timeout) := by
  constructor
  · rintro ⟨answer, accepted, undecided, count⟩
    obtain ⟨task, rfl, heeding⟩ := report_eq_some accepted
    have spent : maxAttempts ≤ c.attempts + 1 := by rw [h.attempts, count]; exact Nat.le_refl _
    have timedOut : Turn c now (.status task answer) _ _ := .timedOut heeding undecided spent
    exact turn.effect_eq.symm.trans timedOut.effect_eq
  · rintro rfl
    cases turn with
    | timedOut heeding undecided spent =>
        refine ⟨_, report_heeding heeding _, undecided, ?_⟩
        have left := (coherent.polls heeding.1).attempts
        have spent : 300 ≤ c.attempts + 1 := spent
        rw [← h.attempts]
        omega

/-- A question is asked when it is due and no report is waited for. -/
theorem Turn.fetch {task : TaskId} (turn : Turn c now event next (some (.fetchStatus task))) :
    c.isHeeding task ∧ c.awaiting = false ∧ isDue c.nextPoll now = true := by
  cases turn with
  | poll _ heeding quiet due => exact ⟨heeding, quiet, due⟩

theorem Turn.cancel {task : TaskId} (turn : Turn c now event next (some (.cancelTask task))) :
    c.isHeeding task := by
  cases turn with
  | stop heeding => exact heeding

theorem Accounts.disciplined (h : Accounts past c) (coherent : c.Coherent)
    (turn : Turn c now event next effect) : Disciplined past ⟨c, now, event⟩ := by
  have asked := turn.effect_eq
  have created {task : TaskId} (heeding : c.isHeeding task) : past.filterMap created? = [task] := by
    rw [h.task, heeding.2.1]
    rfl
  exact {
    task := by
      rintro task (asks | stops)
      · obtain rfl := asked.symm.trans asks
        exact created turn.fetch.1
      · obtain rfl := asked.symm.trans stops
        exact created turn.cancel
    answered := by
      intro task asks
      obtain rfl := asked.symm.trans asks
      exact h.answered turn.fetch.2.1
    spaced := by
      intro task asks
      obtain rfl := asked.symm.trans asks
      cases set : c.nextPoll with
      | none => simpa [set, isDue] using turn.fetch.2.2
      | some due =>
          obtain ⟨heard, last, rfl⟩ := h.due due set
          exact ⟨heard, last, by simpa [set, isDue] using turn.fetch.2.2⟩
    told := by rw [asked, h.endsPatience_iff coherent turn]
    timedOut := by
      rw [h.endsPatience_iff coherent turn, ← asked]
      exact (step_alert_iff c now event .timeout).symm
    completed := by
      intro report accepted status
      obtain ⟨task, rfl, heeding⟩ := report_eq_some accepted
      have ends : Turn c now (.status task (.ok report)) _ _ := .completed heeding status
      rw [ends.next_eq, ends.effect_eq]
      exact ⟨rfl, rfl⟩
    cancelled := by
      intro report accepted status
      obtain ⟨task, rfl, heeding⟩ := report_eq_some accepted
      have ends : Turn c now (.status task (.ok report)) _ _ := .cancelled heeding status
      rw [ends.next_eq]
      rfl
    failed := by
      intro report accepted status
      obtain ⟨task, rfl, heeding⟩ := report_eq_some accepted
      have ends : Turn c now (.status task (.ok report)) _ _ := .failed heeding status
      rw [ends.next_eq]
      exact ⟨_, rfl⟩ }

/-- What an account comes to: the attempts are the accepted reports, and neither they nor the
questions are more than three hundred. -/
structure Counts (past : List Incident) (c : Controller) : Prop where
  attempts : c.attempts = past.countP isReport
  reports : past.countP isReport ≤ 300
  fetches : past.countP isFetch ≤ 300

theorem Accounts.counts (h : Accounts past c) : Counts past c :=
  ⟨h.attempts, h.attempts ▸ h.patience, h.few⟩

/-- The way back to rest is no report and no question, and keeps the attempts. -/
theorem Accounts.counts_turn (h : Accounts past c) (coherent : c.Coherent) (busy : c.phase ≠ .idle)
    (turn : Turn c now event next effect) : Counts (past ++ [⟨c, now, event⟩]) next := by
  by_cases home : next.phase = .idle
  · have asked := turn.effect_eq
    cases turn with
    | reset =>
        have noFetch : isFetch ⟨c, now, .tick⟩ = false := isFetch_eq_false (by simp [asked])
        have noReport : isReport ⟨c, now, .tick⟩ = false := rfl
        have counts := h.counts
        constructor <;>
          simp only [List.countP_append, List.countP_singleton, noFetch, noReport,
            Bool.false_eq_true, if_false, Nat.add_zero]
        · exact counts.attempts
        · exact counts.reports
        · exact counts.fetches
    | ignored | muted | undecided | stop | poll => exact absurd home busy
    | start idle => exact absurd idle busy
    | _ => cases home
  · exact (h.turn coherent busy turn home).counts

/-- Until the controller is at rest again, the fields keep account and every event keeps discipline,
the one that brings it there included. -/
theorem Accounts.run (h : Accounts past c) (coherent : c.Coherent) (busy : c.phase ≠ .idle)
    (events : List (Time × Event)) (away : ∀ p ∈ (c.phases events).dropLast, p ≠ .idle) :
    Counts (past ++ c.incidents events) (c.run events).1 ∧
      ∀ before i after, c.incidents events = before ++ i :: after →
        Disciplined (past ++ before) i := by
  induction events generalizing past c with
  | nil =>
      rw [incidents, List.append_nil]
      refine ⟨h.counts, fun before i after split => ?_⟩
      simp at split
  | cons head rest ih =>
      obtain ⟨now, event⟩ := head
      have turn := step_turn c now event
      have first := h.disciplined coherent turn
      cases rest with
      | nil =>
          refine ⟨h.counts_turn coherent busy turn, fun before i after split => ?_⟩
          obtain ⟨rfl, rfl⟩ : [] = before ∧ Incident.mk c now event = i := by
            cases before with
            | nil => exact ⟨rfl, (List.cons.inj split).1⟩
            | cons _ before => simp [incidents] at split
          rwa [List.append_nil]
      | cons second rest =>
          obtain ⟨awayNow, awayLater⟩ := List.forall_mem_cons.mp away
          obtain ⟨counts, disciplined⟩ :=
            ih (h.turn coherent busy turn awayNow) (coherent.turn turn) awayNow awayLater
          rw [List.append_assoc] at counts
          refine ⟨counts, fun before i after split => ?_⟩
          cases before with
          | nil =>
              obtain ⟨rfl, -⟩ := List.cons.inj split
              rwa [List.append_nil]
          | cons _ before =>
              obtain ⟨rfl, later⟩ := List.cons.inj split
              have law := disciplined before i after later
              rwa [List.append_assoc] at law

/-- From an accepted start until the controller is at rest again, whatever comes and at whatever times:
every event keeps the discipline of polling, the one that ends the conversion included; the count of
attempts is the number of accepted reports, and there are at most three hundred of these and of the
questions. -/
theorem run_polls (before : List (Time × Event)) (rest : (run {} before).1.phase = .idle)
    (asked : Time) (source : Media.Source) (button : Button) (during : List (Time × Event))
    (away : ∀ p ∈
      (((run {} before).1.step asked (.start source button)).1.phases during).dropLast,
      p ≠ .idle) :
    let started := ((run {} before).1.step asked (.start source button)).1
    let past := started.incidents during
    (∀ earlier i later, past = earlier ++ i :: later → Disciplined earlier i) ∧
      (started.run during).1.attempts = past.countP Incident.isReport ∧
      past.countP Incident.isReport ≤ 300 ∧ past.countP Incident.isFetch ≤ 300 := by
  have starts : ((run {} before).1.step asked (.start source button)).1 =
      (run {} before).1.started button := congrArg Prod.fst (Turn.step_eq (.start rest))
  rw [starts] at away ⊢
  obtain ⟨counts, disciplined⟩ := (accounts_started (run {} before).1 button).run
    (coherent_started _ button) nofun during away
  exact ⟨disciplined, counts.attempts, counts.reports, counts.fetches⟩

/-- The second conversion of a controller: hundreds of reports that fail come unasked for, then one is
asked for and decides nothing, and the last tick ends the conversion. -/
theorem run_polls_to_the_end :
    let before : List (Time × Event) :=
      [(0, .start ⟨"u", .cuda⟩ .mp3), (10, .created (.error (.transport "lost"))), (510, .tick)]
    let during : List (Time × Event) :=
      (1100, .created (.ok "t")) ::
        (List.replicate 299 (2000, .status "t" (.error (.transport "lost"))) ++
          [(4000, .tick), (4100, .status "t" (.ok { status := .processing })), (4600, .tick)])
    let started := ((run {} before).1.step 1000 (.start ⟨"v", .cpu⟩ .link)).1
    (run {} before).1.phase = .idle ∧ (∀ p ∈ (started.phases during).dropLast, p ≠ .idle) ∧
    (started.phases during).getLast? = some .idle ∧
    (started.run during).2 = [.fetchStatus "t", .alert .timeout] ∧
    (started.incidents during).countP Incident.isReport = 300 := by
  intro before during started
  have away : ∀ p ∈ (started.phases during).dropLast, p ≠ .idle := by decide +kernel
  have spent : (started.run during).1.attempts = 300 := by decide +kernel
  obtain ⟨-, attempts, -, -⟩ := run_polls before rfl 1000 ⟨"v", .cpu⟩ .link during away
  -- The projections do not see through the name by themselves.
  have named : ((run {} before).1.step 1000 (.start ⟨"v", .cpu⟩ .link)).1 = started := rfl
  rw [named, spent] at attempts
  exact ⟨rfl, away, by decide +kernel, by decide +kernel, attempts.symm⟩

end Controller

end KeySheet.Conversion
