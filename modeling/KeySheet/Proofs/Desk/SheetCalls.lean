import KeySheet.Proofs.Desk.SavedSettings

/-! Which sheet the viewer waits for. An open viewer has asked for the sheet of its file, in its
mode and with the settings as they are: whatever changes one of these asks anew. Only the settings
that are loaded at the start come without that, and before them there is nothing to open. -/
namespace KeySheet

open Backend (Answer Call Failure)
open Conversion (Controller Effect Event Time)

namespace Backend

/-- The file and the settings of a call for a sheet. -/
def Call.inquiry? : Call → Option (String × Settings)
  | .convertToSheets midi settings => some (midi, settings)
  | _ => none

/-- The file of an answer that is a sheet, or the reason why there is none. -/
def Answer.report? : Answer → Option (String × Except Failure Sheet.Score)
  | .sheet midi answer => some (midi, answer)
  | _ => none

/-- The sheets that some calls ask for, the oldest first. -/
def inquiries (calls : List Call) : List (String × Settings) := calls.filterMap Call.inquiry?

theorem inquiries_append (calls more : List Call) :
    inquiries (calls ++ more) = inquiries calls ++ inquiries more :=
  List.filterMap_append

theorem inquiries_eq_nil {calls : List Call} (h : ∀ call ∈ calls, call.inquiry? = none) :
    inquiries calls = [] :=
  List.filterMap_eq_nil_iff.mpr h

end Backend

open Backend (inquiries inquiries_append inquiries_eq_nil)

theorem Conversion.Controller.Turn.asks_own {c next : Controller} {now : Time} {event : Event}
    {effect : Option Effect} (turn : Controller.Turn c now event next effect)
    (own : event.isOwn = true) : ∀ e ∈ effect, e.call? ≠ none := by
  cases turn with
  | ignored | reset => simp
  | start | stop | poll => simp [Effect.call?]
  | _ => cases own

namespace Desk

/-- The same sheet is shown, or the same reason why there is none. -/
structure SameSheet (v w : Viewer) : Prop where
  midi : w.midi = v.midi
  loading : w.loading = v.loading
  error : w.error = v.error
  sheet : w.sheet = v.sheet
  layout : w.layout = v.layout
  transposes : w.transposes = v.transposes

theorem sameSheet_refl (v : Viewer) : SameSheet v v := ⟨rfl, rfl, rfl, rfl, rfl, rfl⟩

theorem receive_stays (v : Viewer) (midi : String) (answer : Except Failure Sheet.Score) :
    (v.receive midi answer).isOpen = v.isOpen ∧ (v.receive midi answer).midi = v.midi ∧
      (v.receive midi answer).mode = v.mode := by
  unfold Viewer.receive
  split
  · cases answer <;> exact ⟨rfl, rfl, rfl⟩
  · exact ⟨rfl, rfl, rfl⟩

/-- The settings and the viewer after a step, with the sheet that arrives in it and those that it
asks for. -/
inductive Viewed (settings : Settings) (viewer : Viewer) :
    Option (String × Except Failure Sheet.Score) → Settings → Viewer → List (String × Settings) → Prop
  /-- The viewer is scrolled, drawn or closed. -/
  | looked {next} : SameSheet viewer next → next.mode = viewer.mode →
      (next.isOpen = true → viewer.isOpen = true) → Viewed settings viewer none settings next []
  | resettled {settings'} : viewer.isOpen = false → Viewed settings viewer none settings' viewer []
  | heard {midi answer} :
      Viewed settings viewer (some (midi, answer)) settings (viewer.receive midi answer) []
  | asked {settings' next midi} : next.midi = some midi → next.loading = true → next.error = none →
      Viewed settings viewer none settings' next [(midi, settings'.forMode next.mode)]

/-- A step of which the viewer and the settings are all that is told. -/
def Views (report : Option (String × Except Failure Sheet.Score)) (d d' : Desk) : Prop :=
  ∃ calls, d'.mail = d.mail.submitAll calls ∧
    Viewed d.settings d.viewer report d'.settings d'.viewer (inquiries calls)

/-- A step that has nothing to do with sheets. -/
structure Unviewed (d d' : Desk) : Prop where
  settings : d'.settings = d.settings
  viewer : d'.viewer = d.viewer
  asks : Submits (fun call => call.inquiry? = none) d d'

variable {d d' d'' : Desk} {t : Moment}

theorem unviewed_same (hs : d'.settings = d.settings) (hv : d'.viewer = d.viewer)
    (hm : d'.mail = d.mail) : Unviewed d d' :=
  ⟨hs, hv, submits_same _ hm⟩

theorem unviewed_submit (d : Desk) {call : Call} (other : call.inquiry? = none) :
    Unviewed d (d.submit call) :=
  ⟨rfl, rfl, submits_submit d other⟩

theorem Unviewed.trans (h : Unviewed d d') (h' : Unviewed d' d'') : Unviewed d d'' :=
  ⟨h'.settings.trans h.settings, h'.viewer.trans h.viewer, h.asks.trans h'.asks⟩

theorem Unviewed.after (h : Unviewed d' d'') (hs : d'.settings = d.settings)
    (hv : d'.viewer = d.viewer) (hm : d'.mail = d.mail) : Unviewed d d'' :=
  (unviewed_same hs hv hm).trans h

theorem views_looked (hs : d'.settings = d.settings) (hm : d'.mail = d.mail)
    (same : SameSheet d.viewer d'.viewer) (mode : d'.viewer.mode = d.viewer.mode)
    (shown : d'.viewer.isOpen = true → d.viewer.isOpen = true) : Views none d d' := by
  refine ⟨[], by rw [hm, Mailbox.submitAll_nil], ?_⟩
  rw [hs]
  exact .looked same mode shown

theorem Unviewed.views (h : Unviewed d d') : Views none d d' := by
  obtain ⟨calls, mail, others⟩ := h.asks
  refine ⟨calls, mail, ?_⟩
  rw [inquiries_eq_nil others, h.settings, h.viewer]
  exact .looked (sameSheet_refl d.viewer) rfl id

theorem views_requestSheet {midi : String} (asks : Submits (fun call => call.inquiry? = none) d d')
    (named : d'.viewer.midi = some midi) : Views none d d'.requestSheet := by
  obtain ⟨calls, mail, others⟩ := asks
  have asked : d'.requestSheet = { d' with viewer := d'.viewer.await }.submit
      (.convertToSheets midi (d'.settings.forMode d'.viewer.mode)) := by
    simp only [requestSheet, named]
  refine ⟨calls ++ [.convertToSheets midi (d'.settings.forMode d'.viewer.mode)], ?_, ?_⟩
  · rw [← Mailbox.submitAll_submitAll, ← mail, asked]
    rfl
  · rw [inquiries_append, inquiries_eq_nil others, asked]
    exact .asked named rfl rfl

theorem views_openViewer (d : Desk) (midi title : String) : Views none d (d.openViewer midi title) :=
  views_requestSheet (submits_same _ rfl) rfl

theorem views_confirmSettings {midi : String}
    (named : d.viewer.isOpen = true → d.viewer.midi = some midi) : Views none d d.confirmSettings := by
  have saved : Submits (fun call => call.inquiry? = none) d ({ d with
      settings := d.dialog.draft
      dialog := { d.dialog with isOpen := false } }.submit (.saveSettings d.dialog.draft)) :=
    (submits_same _ rfl).trans (submits_submit _ rfl)
  fun_cases confirmSettings d
  · exact (unviewed_same rfl rfl rfl).views
  · next shown => exact views_requestSheet saved (named shown)
  · next closed => exact ⟨[_], rfl, .resettled (Bool.eq_false_iff.mpr closed)⟩

theorem unviewed_carryOut (d : Desk) (t : Moment) (effect : Effect) :
    Unviewed d (d.carryOut t effect) := by
  cases effect with
  | createTask | fetchStatus | cancelTask => exact unviewed_submit d rfl
  | completed => exact (unviewed_submit _ rfl).after rfl rfl rfl
  | alert => exact unviewed_same rfl rfl rfl

theorem unviewed_dispatch (d : Desk) (t : Moment) (event : Event) :
    Unviewed d (d.dispatch t event) := by
  unfold dispatch
  split
  split
  · exact (unviewed_carryOut _ t _).after rfl rfl rfl
  · exact unviewed_same rfl rfl rfl

theorem unviewed_startConversion (d : Desk) (t : Moment) : Unviewed d (d.startConversion t) := by
  unfold startConversion
  split
  · exact unviewed_same rfl rfl rfl
  · dsimp only
    split
    · exact (unviewed_dispatch _ t _).after rfl rfl rfl
    · exact unviewed_dispatch d t _

theorem Deed.views {midi : String} (deed : Deed t d d')
    (named : d.viewer.isOpen = true → d.viewer.midi = some midi) : Views none d d' := by
  cases deed with
  | confirm => exact views_confirmSettings named
  | reload =>
      have asked : Unviewed d d.refreshHistory := unviewed_submit d rfl
      exact (asked.trans (unviewed_same rfl rfl rfl)).views
  | delete => exact (unviewed_submit d rfl).views
  | upload => exact Unviewed.views ((unviewed_submit _ rfl).after rfl rfl rfl)
  | view => exact views_openViewer d _ _
  | turn shown =>
      rw [toggleMode, shown]
      exact views_requestSheet (submits_same _ rfl) (named shown)
  | page => exact views_looked rfl rfl ⟨rfl, rfl, rfl, rfl, rfl, rfl⟩ rfl id
  | close =>
      have closed : d.closeViewer.viewer.isOpen ≠ true := Bool.false_ne_true
      exact views_looked rfl rfl ⟨rfl, rfl, rfl, rfl, rfl, rfl⟩ rfl fun shown => absurd shown closed
  | start => exact (unviewed_startConversion d t).views
  | stop => exact (unviewed_dispatch d t .stop).views
  | glance | draft | highlight => exact (unviewed_same rfl rfl rfl).views

theorem receive_views (d : Desk) (t : Moment) (answer : Answer)
    (early : answer.loaded? ≠ none → d.viewer.isOpen = false) :
    Views answer.report? d (d.receive t answer) := by
  cases answer with
  | taskCreated answer => exact (unviewed_dispatch d t (.created answer)).views
  | taskStatus task answer => exact (unviewed_dispatch d t (.status task answer)).views
  | taskStopped task answer => exact (unviewed_dispatch d t (.stopped task answer)).views
  | sheet midi answer => exact ⟨[], (Mailbox.submitAll_nil _).symm, .heard⟩
  | uploaded path answer =>
      cases answer with
      | ok midi => exact views_openViewer d _ _
      | error e => exact (unviewed_same rfl rfl rfl).views
  | settingsLoaded answer =>
      rcases answer with e | _ | settings
      · exact (unviewed_same rfl rfl rfl).views
      · exact (unviewed_same rfl rfl rfl).views
      · exact ⟨[], (Mailbox.submitAll_nil _).symm, .resettled (early nofun)⟩
  | health => exact (unviewed_same rfl rfl rfl).views
  | history answer | historyDeleted _ answer | settingsSaved answer =>
      cases answer <;> exact (unviewed_same rfl rfl rfl).views

/-- There is nothing to open yet. -/
structure Bare (d : Desk) : Prop where
  entries : d.history.entries = []
  lastResult : d.lastResult = none
  closed : d.viewer.isOpen = false

theorem Bare.noResult (h : d.Bare) : ¬ d.HasResult := by
  simp [HasResult, History.current?, h.entries, h.lastResult]

theorem dispatch_own (d : Desk) (t : Moment) {event : Event} (own : event.isOwn = true) :
    ∃ controller mail,
      d.dispatch t event = { d with controller := controller, mail := mail } := by
  have asks := (Controller.step_turn d.controller t.now event).asks_own own
  unfold dispatch
  generalize d.controller.step t.now event = stepped at asks
  obtain ⟨controller, effect⟩ := stepped
  cases effect with
  | none => exact ⟨controller, d.mail, rfl⟩
  | some effect =>
      have call := asks effect rfl
      cases effect with
      | createTask | fetchStatus | cancelTask => exact ⟨controller, d.mail.submit _, rfl⟩
      | completed | alert => exact absurd rfl call

theorem Bare.dispatch (h : d.Bare) (t : Moment) (event : Event) (own : event.isOwn = true) :
    (d.dispatch t event).Bare := by
  obtain ⟨controller, mail, same⟩ := dispatch_own d t own
  rw [same]
  exact ⟨h.entries, h.lastResult, h.closed⟩

theorem Bare.startConversion (h : d.Bare) (t : Moment) : (d.startConversion t).Bare := by
  unfold Desk.startConversion
  split
  · exact ⟨h.entries, h.lastResult, h.closed⟩
  · dsimp only
    split
    · refine Bare.dispatch ?_ t _ ?_
      · exact ⟨h.entries, rfl, h.closed⟩
      · rfl
    · exact h.dispatch t _ rfl

theorem Bare.deed (h : d.Bare) (deed : Deed t d d') : d'.Bare := by
  cases deed with
  | confirm =>
      fun_cases confirmSettings d
      · exact ⟨h.entries, h.lastResult, h.closed⟩
      · next shown => cases h.closed.symm.trans shown
      · exact ⟨h.entries, h.lastResult, h.closed⟩
  | highlight same => exact ⟨same.trans h.entries, h.lastResult, h.closed⟩
  | view result => exact absurd result h.noResult
  | turn shown => cases h.closed.symm.trans shown
  | close => exact ⟨h.entries, h.lastResult, rfl⟩
  | start => exact h.startConversion t
  | stop => exact h.dispatch t .stop rfl
  | glance | draft | reload | delete | upload | page => exact ⟨h.entries, h.lastResult, h.closed⟩

/-- The sheet that arrives when a move takes it up. -/
def reporting (d : Desk) : Move → Option (String × Except Failure Sheet.Score)
  | .take _ => d.mail.answers.head?.bind Answer.report?
  | _ => none

theorem Bare.resize (h : d.Bare) (width height : Nat) : (d.resize width height).Bare := by
  refine ⟨h.entries, h.lastResult, ?_⟩
  rw [Desk.resize, h.closed]
  exact h.closed

theorem resize_views (d : Desk) (width height : Nat) : Views none d (d.resize width height) := by
  unfold resize
  cases shown : d.viewer.isOpen with
  | true => exact views_looked rfl rfl ⟨rfl, rfl, rfl, rfl, rfl, rfl⟩ rfl (fun _ => shown)
  | false => exact (unviewed_same rfl rfl rfl).views

end Desk

namespace Ledger

open Desk (Bare Move Viewed Views unviewed_same)

variable {l : Ledger} {m : Move}

/-- The settings have not come, and before them comes only the health of the converter. -/
structure Opening (l : Ledger) : Prop where
  outstanding : ∃ before rest, l.outstanding = before ++ .loadSettings :: rest ∧
    (∀ call ∈ before, call = .health) ∧ Call.loadSettings ∉ rest
  bare : l.desk.Bare

/-- What an open viewer has asked for is what it shows. -/
structure Attended (l : Ledger) : Prop where
  balanced : l.Balanced
  opening : Call.loadSettings ∈ l.outstanding → l.Opening
  current : l.desk.viewer.isOpen = true → ∃ midi, l.desk.viewer.midi = some midi ∧
    (inquiries l.submitted).getLast? = some (midi, l.desk.settings.forMode l.desk.viewer.mode)

theorem attended_fresh (server : String) (device : Media.Device) (dir : List Char) :
    (fresh server device dir).Attended := by
  refine ⟨balanced_fresh server device dir, fun _ => ⟨?_, rfl, rfl, rfl⟩, nofun⟩
  exact ⟨[.health], [.history History.capacity], rfl, by simp, by simp⟩

theorem Attended.named (h : l.Attended) :
    ∃ midi, l.desk.viewer.isOpen = true → l.desk.viewer.midi = some midi := by
  cases shown : l.desk.viewer.isOpen with
  | false => exact ⟨"", nofun⟩
  | true =>
      obtain ⟨midi, named, -⟩ := h.current shown
      exact ⟨midi, fun _ => named⟩

/-- Settings arrive only while there is nothing to open. -/
theorem Attended.early (h : l.Attended) {answer : Answer} {rest : List Answer}
    (waiting : l.desk.mail.answers = answer :: rest) (loaded : answer.loaded? ≠ none) :
    l.desk.viewer.isOpen = false := by
  obtain ⟨call, more, oldest, ⟨service, answers⟩, -⟩ := h.balanced.oldest waiting
  cases call with
  | loadSettings => exact (h.opening (oldest ▸ List.mem_cons_self)).bare.closed
  | _ => exact absurd (by rw [answers]; rfl) loaded

/-- What a move does to the viewer, with the calls that it makes. -/
theorem Attended.advance_views (h : l.Attended) (m : Move) :
    Viewed l.desk.settings l.desk.viewer (l.desk.reporting m) (l.advance m).desk.settings
      (l.advance m).desk.viewer (inquiries (callsOf l.desk m)) := by
  have own (views : Views (l.desk.reporting m) l.desk (l.desk.after m)) :
      Viewed l.desk.settings l.desk.viewer (l.desk.reporting m) (l.advance m).desk.settings
        (l.advance m).desk.viewer (inquiries (callsOf l.desk m)) := by
    obtain ⟨calls, mail, viewed⟩ := views
    rw [callsOf_submits _ rfl mail]
    exact viewed
  cases m with
  | press t files p =>
      obtain ⟨midi, named⟩ := h.named
      exact own ((Desk.press_deed l.desk t files p).views named)
  | tick t => exact own (Desk.unviewed_dispatch l.desk t .tick).views
  | expire now =>
      obtain ⟨notice, same⟩ := expireNotice_eq l.desk now
      refine own (unviewed_same ?_ ?_ ?_).views <;> rw [Desk.after, same]
  | draw width height => exact own (Desk.resize_views l.desk width height)
  | serve service =>
      rw [callsOf_serve]
      exact .looked (Desk.sameSheet_refl _) rfl id
  | take t =>
      cases waiting : l.desk.mail.answers with
      | nil =>
          have idle := Desk.takeUp_idle waiting t
          have none : l.desk.reporting (.take t) = none := by
            rw [Desk.reporting, waiting]
            rfl
          rw [none] at own ⊢
          refine own (unviewed_same ?_ ?_ ?_).views <;> rw [idle]
      | cons answer rest =>
          have taken := Desk.takeUp_oldest waiting t
          obtain ⟨calls, mail, viewed⟩ := Desk.receive_views
            { l.desk with mail := l.desk.mail.taken } t answer (h.early waiting)
          have made : callsOf l.desk (.take t) = calls :=
            callsOf_submits l.desk.mail.taken rfl (by rw [taken, mail])
          rw [made, advance, taken, Desk.reporting, waiting]
          exact viewed

/-- The health of the converter opens nothing. -/
theorem bare_after {d : Desk} (bare : d.Bare) (m : Move)
    (told : ∀ answer ∈ answersOf d m, ∃ health, answer = .health health) : (d.after m).Bare := by
  cases m with
  | press t files p => exact bare.deed (Desk.press_deed d t files p)
  | tick t => exact bare.dispatch t .tick rfl
  | expire now =>
      obtain ⟨notice, same⟩ := expireNotice_eq d now
      rw [Desk.after, same]
      exact ⟨bare.entries, bare.lastResult, bare.closed⟩
  | draw width height => exact bare.resize width height
  | serve service =>
      obtain ⟨mail, same⟩ := Desk.serve_mail d service
      rw [same]
      exact ⟨bare.entries, bare.lastResult, bare.closed⟩
  | take t =>
      cases waiting : d.mail.answers with
      | nil =>
          rw [Desk.takeUp_idle waiting t]
          exact bare
      | cons answer rest =>
          obtain ⟨health, rfl⟩ := told answer (by simp [answersOf, waiting])
          rw [Desk.takeUp_oldest waiting t]
          exact ⟨bare.entries, bare.lastResult, bare.closed⟩

theorem Opening.advance (h : l.Opening) (balanced : l.Balanced) {m : Move}
    (waits : Call.loadSettings ∈ (l.advance m).outstanding) : (l.advance m).Opening := by
  obtain ⟨calls, made, noLoad, -⟩ := l.advance_edits m
  obtain rfl : callsOf l.desk m = calls := List.append_cancel_left made
  obtain ⟨before, later, outstanding, healths, once⟩ := h.outstanding
  obtain ⟨gone, rest, parts, answers, next⟩ := balanced.outstanding_next m
  have waits : Call.loadSettings ∈ rest := by
    rw [next] at waits
    rcases List.mem_append.mp waits with old | new
    · exact old
    · cases noLoad _ new
  -- What was answered stands before the load, since the load is still to be answered.
  have split : ∃ left, before = gone ++ left ∧ rest = left ++ .loadSettings :: later := by
    rcases List.append_eq_append_iff.mp (parts.symm.trans outstanding) with ⟨left, same⟩ | ⟨more, same⟩
    · exact ⟨left, same⟩
    · cases more with
      | nil => exact ⟨[], by simpa using same.1.symm, by simpa using same.2.symm⟩
      | cons first more =>
          have within : later = more ++ rest := (List.cons.inj same.2).2
          exact absurd (within ▸ List.mem_append_right more waits) once
  obtain ⟨left, rfl, rfl⟩ := split
  refine ⟨⟨left, later ++ callsOf l.desk m, ?_, ?_, ?_⟩, ?_⟩
  · rw [next, List.append_assoc, List.cons_append]
  · exact fun call member => healths call (List.mem_append_right gone member)
  · intro member
    rcases List.mem_append.mp member with old | new
    · exact once old
    · cases noLoad _ new
  · apply bare_after h.bare m
    intro answer member
    obtain ⟨i, there⟩ := List.mem_iff_getElem?.mp member
    obtain ⟨call, asked, service, rfl⟩ := answered_at answers there
    obtain rfl := healths call (List.mem_append_left left (List.mem_of_getElem? asked))
    exact ⟨_, rfl⟩

theorem Attended.advance (h : l.Attended) (m : Move) : (l.advance m).Attended := by
  have viewed := h.advance_views m
  refine ⟨h.balanced.advance (l.advance_cases m), ?_, ?_⟩
  · intro waits
    obtain ⟨calls, made, noLoad, -⟩ := l.advance_edits m
    rcases h.balanced.outstanding_advance made waits with before | now
    · exact (h.opening before).advance h.balanced waits
    · cases noLoad _ now
  · intro shown
    show ∃ midi, _ ∧ (inquiries (l.submitted ++ callsOf l.desk m)).getLast? = _
    rw [inquiries_append]
    generalize inquiries (callsOf l.desk m) = asked at viewed ⊢
    generalize l.desk.reporting m = report at viewed
    generalize (l.advance m).desk.settings = settings at viewed ⊢
    generalize (l.advance m).desk.viewer = viewer at viewed shown ⊢
    cases viewed with
    | looked same mode open_ =>
        obtain ⟨midi, named, asked⟩ := h.current (open_ shown)
        refine ⟨midi, same.midi.trans named, ?_⟩
        rw [List.append_nil, mode]
        exact asked
    | resettled closed => cases closed.symm.trans shown
    | @heard midi answer =>
        obtain ⟨same, named, mode⟩ := Desk.receive_stays l.desk.viewer midi answer
        rw [List.append_nil, named, mode]
        exact h.current (same.symm.trans shown)
    | asked named => exact ⟨_, named, List.getLast?_concat⟩

theorem Attended.play (h : l.Attended) (moves : List Move) : (l.play moves).Attended := by
  induction moves generalizing l with
  | nil => exact h
  | cons m rest ih => exact ih (h.advance m)

end Ledger

end KeySheet
