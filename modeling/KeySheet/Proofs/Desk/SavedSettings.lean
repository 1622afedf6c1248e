import KeySheet.Proofs.Desk.Ledger

/-! Where the settings come from. They are loaded once, at the start, and from then on they are what
was saved last; so the client and the converter agree once the save is answered. A save that is made
before the settings have come is undone by them. -/
namespace KeySheet

open Backend (Answer Call Service)

namespace Backend

/-- The settings that a call saves. -/
def Call.saved? : Call → Option Settings
  | .saveSettings settings => some settings
  | _ => none

def Call.isLoad : Call → Bool
  | .loadSettings => true
  | _ => false

/-- The settings that an answer brings. -/
def Answer.loaded? : Answer → Option Settings
  | .settingsLoaded (.ok (some settings)) => some settings
  | _ => none

/-- The settings that some calls save, the oldest first. -/
def saves (calls : List Call) : List Settings := calls.filterMap Call.saved?

theorem saves_append (calls more : List Call) : saves (calls ++ more) = saves calls ++ saves more :=
  List.filterMap_append

end Backend

open Backend (saves saves_append)

namespace Desk

/-- The settings and their dialog after a step, with the settings that arrive in it and those that
it saves. -/
inductive Edited (settings : Settings) (dialog : SettingsDialog) :
    Option Settings → Settings → SettingsDialog → List Settings → Prop
  | untouched : Edited settings dialog none settings dialog []
  | loaded {arrived} : Edited settings dialog (some arrived) arrived dialog []
  | drafted {next} : Drafts settings dialog next → Edited settings dialog none settings next []
  | saved : dialog.isOpen = true →
      Edited settings dialog none dialog.draft { dialog with isOpen := false } [dialog.draft]

/-- A step of which the settings are all that is told. It never loads them again. -/
def Edits (arrived : Option Settings) (d d' : Desk) : Prop :=
  ∃ calls, d'.mail = d.mail.submitAll calls ∧ (∀ call ∈ calls, call.isLoad = false) ∧
    Edited d.settings d.dialog arrived d'.settings d'.dialog (saves calls)

/-- A step that has nothing to do with the settings. -/
structure Unedited (d d' : Desk) : Prop where
  settings : d'.settings = d.settings
  dialog : d'.dialog = d.dialog
  asks : Submits (fun call => call.isLoad = false ∧ call.saved? = none) d d'

variable {d d' d'' : Desk} {t : Moment}

theorem unedited_same (hs : d'.settings = d.settings) (hd : d'.dialog = d.dialog)
    (hm : d'.mail = d.mail) : Unedited d d' :=
  ⟨hs, hd, submits_same _ hm⟩

theorem unedited_submit (d : Desk) {call : Call} (load : call.isLoad = false)
    (save : call.saved? = none) : Unedited d (d.submit call) :=
  ⟨rfl, rfl, submits_submit d ⟨load, save⟩⟩

theorem Unedited.trans (h : Unedited d d') (h' : Unedited d' d'') : Unedited d d'' :=
  ⟨h'.settings.trans h.settings, h'.dialog.trans h.dialog, h.asks.trans h'.asks⟩

theorem Unedited.after (h : Unedited d' d'') (hs : d'.settings = d.settings)
    (hd : d'.dialog = d.dialog) (hm : d'.mail = d.mail) : Unedited d d'' :=
  (unedited_same hs hd hm).trans h

theorem Edits.then {arrived : Option Settings} (h : Edits arrived d d') (h' : Unedited d' d'') :
    Edits arrived d d'' := by
  obtain ⟨calls, mail, noLoad, edited⟩ := h
  obtain ⟨more, mail', others⟩ := h'.asks
  refine ⟨calls ++ more, by rw [mail', mail, Mailbox.submitAll_submitAll], ?_, ?_⟩
  · exact List.forall_mem_append.mpr ⟨noLoad, fun call member => (others call member).1⟩
  · have none : saves more = [] :=
      List.filterMap_eq_nil_iff.mpr fun call member => (others call member).2
    rw [saves_append, none, List.append_nil, h'.settings, h'.dialog]
    exact edited

theorem edits_same (hs : d'.settings = d.settings) (hm : d'.mail = d.mail)
    (drafts : Drafts d.settings d.dialog d'.dialog) : Edits none d d' :=
  ⟨[], by rw [hm, Mailbox.submitAll_nil], by simp, by rw [hs]; exact .drafted drafts⟩

theorem Unedited.edits (h : Unedited d d') : Edits none d d' :=
  Edits.then ⟨[], (Mailbox.submitAll_nil _).symm, by simp, .untouched⟩ h

theorem unedited_requestSheet (d : Desk) : Unedited d d.requestSheet := by
  unfold requestSheet
  split
  · exact unedited_same rfl rfl rfl
  · exact (unedited_submit _ rfl rfl).after rfl rfl rfl

theorem unedited_openViewer (d : Desk) (midi title : String) :
    Unedited d (d.openViewer midi title) :=
  (unedited_requestSheet _).after rfl rfl rfl

theorem unedited_toggleMode (d : Desk) (now : Conversion.Time) :
    Unedited d (d.toggleMode now) := by
  fun_cases toggleMode d now
  · exact (unedited_requestSheet _).after rfl rfl rfl
  · exact unedited_same rfl rfl rfl

theorem unedited_carryOut (d : Desk) (t : Moment) (effect : Conversion.Effect) :
    Unedited d (d.carryOut t effect) := by
  cases effect with
  | createTask | fetchStatus | cancelTask => exact unedited_submit d rfl rfl
  | completed => exact (unedited_submit _ rfl rfl).after rfl rfl rfl
  | alert => exact unedited_same rfl rfl rfl

theorem unedited_dispatch (d : Desk) (t : Moment) (event : Conversion.Event) :
    Unedited d (d.dispatch t event) := by
  unfold dispatch
  split
  split
  · exact (unedited_carryOut _ t _).after rfl rfl rfl
  · exact unedited_same rfl rfl rfl

theorem unedited_startConversion (d : Desk) (t : Moment) : Unedited d (d.startConversion t) := by
  unfold startConversion
  split
  · exact unedited_same rfl rfl rfl
  · dsimp only
    split
    · exact (unedited_dispatch _ t _).after rfl rfl rfl
    · exact unedited_dispatch d t _

theorem unedited_receiveUpload (d : Desk) (path : List Char)
    (answer : Except Backend.Failure String) : Unedited d (d.receiveUpload path answer) := by
  unfold receiveUpload
  split
  · exact unedited_openViewer d _ _
  · exact unedited_same rfl rfl rfl

theorem edits_confirmSettings (shown : d.dialog.isOpen = true) : Edits none d d.confirmSettings := by
  have saved : Edits none d ({ d with
      settings := d.dialog.draft
      dialog := { d.dialog with isOpen := false } }.submit (.saveSettings d.dialog.draft)) :=
    ⟨[_], rfl, by simp [Call.isLoad], .saved shown⟩
  fun_cases confirmSettings d
  · exact edits_same rfl rfl (.edited shown rfl)
  · exact saved.then (unedited_requestSheet _)
  · exact saved

theorem Deed.edits (deed : Deed t d d') : Edits none d d' := by
  cases deed with
  | draft drafts => exact edits_same rfl rfl drafts
  | confirm shown => exact edits_confirmSettings shown
  | reload =>
      have asked : Unedited d d.refreshHistory := unedited_submit d rfl rfl
      exact (asked.trans (unedited_same rfl rfl rfl)).edits
  | delete => exact (unedited_submit d rfl rfl).edits
  | upload => exact Unedited.edits ((unedited_submit _ rfl rfl).after rfl rfl rfl)
  | view => exact (unedited_openViewer d _ _).edits
  | turn => exact (unedited_toggleMode d t.now).edits
  | start => exact (unedited_startConversion d t).edits
  | stop => exact (unedited_dispatch d t .stop).edits
  | glance | highlight | page | close => exact Unedited.edits (unedited_same rfl rfl rfl)

theorem receive_edits (d : Desk) (t : Moment) (answer : Answer) :
    Edits answer.loaded? d (d.receive t answer) := by
  have aside {d' : Desk} (none : answer.loaded? = none) (h : Unedited d d') :
      Edits answer.loaded? d d' := none ▸ h.edits
  cases answer with
  | taskCreated answer => exact aside rfl (unedited_dispatch d t (.created answer))
  | taskStatus task answer => exact aside rfl (unedited_dispatch d t (.status task answer))
  | taskStopped task answer => exact aside rfl (unedited_dispatch d t (.stopped task answer))
  | uploaded path answer => exact aside rfl (unedited_receiveUpload d path answer)
  | settingsLoaded answer =>
      rcases answer with e | _ | settings
      · exact aside rfl (unedited_same rfl rfl rfl)
      · exact aside rfl (unedited_same rfl rfl rfl)
      · exact ⟨[], (Mailbox.submitAll_nil _).symm, by simp, .loaded⟩
  | sheet | health => exact aside rfl (unedited_same rfl rfl rfl)
  | history answer | historyDeleted _ answer | settingsSaved answer =>
      cases answer <;> exact aside rfl (unedited_same rfl rfl rfl)

/-- The settings that arrive when a move takes them up. -/
def arriving (d : Desk) : Move → Option Settings
  | .take _ => d.mail.answers.head?.bind Answer.loaded?
  | _ => none

end Desk

namespace Ledger

open Desk (Answers Edited Edits Move SettingsDialog Unedited unedited_same)

variable {l : Ledger}

/-- The settings of a save that the converter agrees to. -/
def agreed? : Call × Answer → Option Settings
  | (.saveSettings settings, .settingsSaved (.ok _)) => some settings
  | _ => none

/-- The settings that the converter has kept, going by its answers. -/
def kept (l : Ledger) : Option Settings :=
  ((l.submitted.zip l.drained).filterMap agreed?).getLast?

/-- What a move does to the settings, with the calls that it makes. -/
theorem advance_edits (l : Ledger) (m : Move) :
    ∃ calls, (l.advance m).submitted = l.submitted ++ calls ∧
      (∀ call ∈ calls, call.isLoad = false) ∧
      Edited l.desk.settings l.desk.dialog (l.desk.arriving m) (l.advance m).desk.settings
        (l.advance m).desk.dialog (saves calls) := by
  have own (edits : Edits (l.desk.arriving m) l.desk (l.desk.after m)) :
      ∃ calls, (l.advance m).submitted = l.submitted ++ calls ∧
        (∀ call ∈ calls, call.isLoad = false) ∧
        Edited l.desk.settings l.desk.dialog (l.desk.arriving m) (l.advance m).desk.settings
          (l.advance m).desk.dialog (saves calls) := by
    obtain ⟨calls, mail, edited⟩ := edits
    exact ⟨calls, congrArg (l.submitted ++ ·) (callsOf_submits _ rfl mail), edited⟩
  cases m with
  | press t files p => exact own (Desk.press_deed l.desk t files p).edits
  | tick t => exact own (Desk.unedited_dispatch l.desk t .tick).edits
  | expire now =>
      obtain ⟨notice, same⟩ := expireNotice_eq l.desk now
      refine own (Unedited.edits (unedited_same ?_ ?_ ?_)) <;> rw [Desk.after, same]
  | draw width height => exact own (Unedited.edits (unedited_same rfl rfl rfl))
  | serve service =>
      exact ⟨[], congrArg (l.submitted ++ ·) (callsOf_serve l.desk service), by simp, .untouched⟩
  | take t =>
      cases waiting : l.desk.mail.answers with
      | nil =>
          have idle := Desk.takeUp_idle waiting t
          have none : l.desk.arriving (.take t) = none := by
            rw [Desk.arriving, waiting]
            rfl
          rw [none] at own ⊢
          refine own (Unedited.edits (unedited_same ?_ ?_ ?_)) <;> rw [idle]
      | cons answer rest =>
          have taken := Desk.takeUp_oldest waiting t
          obtain ⟨calls, mail, noLoad, edited⟩ :=
            Desk.receive_edits { l.desk with mail := l.desk.mail.taken } t answer
          refine ⟨calls, congrArg (l.submitted ++ ·) ?_, noLoad, ?_⟩
          · exact callsOf_submits l.desk.mail.taken rfl (by rw [taken, mail])
          · rw [advance, taken, Desk.arriving, waiting]
            exact edited

/-- The settings have come, or it is known that they will not. -/
structure Loaded (l : Ledger) : Prop where
  balanced : l.Balanced
  settled : Call.loadSettings ∉ l.outstanding

theorem Balanced.outstanding_advance (h : l.Balanced) {m : Move} {calls : List Call}
    (made : (l.advance m).submitted = l.submitted ++ calls) {call : Call}
    (waits : call ∈ (l.advance m).outstanding) : call ∈ l.outstanding ∨ call ∈ calls := by
  obtain ⟨gone, rest, all, -, next⟩ := h.outstanding_next m
  obtain rfl : callsOf l.desk m = calls := List.append_cancel_left made
  rw [next] at waits
  rcases List.mem_append.mp waits with old | new
  · exact .inl (all ▸ List.mem_append_right gone old)
  · exact .inr new

/-- No settings arrive once they have come. -/
theorem Loaded.arriving (h : l.Loaded) (m : Move) : l.desk.arriving m = none := by
  cases m with
  | take t =>
      cases waiting : l.desk.mail.answers with
      | nil => simp [Desk.arriving, waiting]
      | cons answer rest =>
          obtain ⟨call, more, oldest, ⟨service, answers⟩, -⟩ := h.balanced.oldest waiting
          have other : call ≠ .loadSettings := by
            rintro rfl
            exact h.settled (oldest ▸ List.mem_cons_self)
          rw [Desk.arriving, waiting, answers]
          cases call with
          | loadSettings => exact absurd rfl other
          | _ => rfl
  | _ => rfl

theorem Loaded.advance (h : l.Loaded) (m : Move) : (l.advance m).Loaded := by
  obtain ⟨calls, made, noLoad, -⟩ := l.advance_edits m
  refine ⟨h.balanced.advance (l.advance_cases m), ?_⟩
  intro waits
  rcases h.balanced.outstanding_advance made waits with before | now
  · exact h.settled before
  · cases noLoad _ now

theorem Loaded.play (h : l.Loaded) (moves : List Move) : (l.play moves).Loaded := by
  induction moves generalizing l with
  | nil => exact h
  | cons m rest ih => exact ih (h.advance m)

/-- What every step keeps that loads no settings, every play keeps after they have come. -/
theorem Loaded.play_keeps (h : l.Loaded) {P : Settings → SettingsDialog → List Settings → Prop}
    (start : P l.desk.settings l.desk.dialog [])
    (keeps : ∀ {settings dialog saved settings' dialog' more}, P settings dialog saved →
      Edited settings dialog none settings' dialog' more → P settings' dialog' (saved ++ more))
    (moves : List Move) :
    P (l.play moves).desk.settings (l.play moves).desk.dialog
      (saves ((l.play moves).submitted.drop l.submitted.length)) := by
  induction moves generalizing l P with
  | nil =>
      show P _ _ (saves (l.submitted.drop l.submitted.length))
      rw [List.drop_length]
      exact start
  | cons m rest ih =>
      obtain ⟨calls, made, -, edited⟩ := l.advance_edits m
      obtain rfl : callsOf l.desk m = calls := List.append_cancel_left made
      rw [h.arriving m] at edited
      rw [submitted_since, saves_append]
      -- The saves of this step stand in front of all those that the rest makes.
      exact ih (h.advance m) (P := fun settings dialog saved =>
        P settings dialog (saves (callsOf l.desk m) ++ saved))
        (by simpa using keeps start edited)
        (fun before step => by rw [← List.append_assoc]; exact keeps before step)

theorem agreed_eq_saves {calls : List Call} {answers : List Answer}
    (h : List.Forall₂ Answers calls answers)
    (agreed : ∀ answer, .settingsSaved answer ∈ answers → answer = .ok ()) :
    (calls.zip answers).filterMap agreed? = saves calls := by
  induction h with
  | nil => rfl
  | @cons call answer calls answers first _ ih =>
      have rest := ih fun answer later => agreed answer (List.mem_cons_of_mem _ later)
      have now : agreed? (call, answer) = call.saved? := by
        obtain ⟨service, rfl⟩ := first
        cases call with
        | saveSettings settings =>
            have yes : service.saveSettings settings = .ok () := agreed _ List.mem_cons_self
            show agreed? (.saveSettings settings, .settingsSaved (service.saveSettings settings)) = _
            rw [yes]
            rfl
        | _ => rfl
      rw [List.zip_cons_cons, List.filterMap_cons, now, rest]
      rfl

/-- When every save is answered, and agreed to, the converter has kept the last one. -/
theorem Balanced.kept_eq (h : l.Balanced)
    (answered : ∀ settings, Call.saveSettings settings ∉ l.outstanding)
    (agreed : ∀ answer, .settingsSaved answer ∈ l.drained → answer = .ok ()) :
    l.kept = (saves l.submitted).getLast? := by
  obtain ⟨first, -⟩ := h.split
  have none : saves l.outstanding = [] := by
    apply List.filterMap_eq_nil_iff.mpr
    intro call member
    cases call with
    | saveSettings settings => exact absurd member (answered settings)
    | _ => rfl
  have all : l.submitted.take l.drained.length ++ l.outstanding = l.submitted :=
    List.take_append_drop _ _
  have same : saves l.submitted =
      saves (l.submitted.take l.drained.length) ++ saves l.outstanding := by rw [← saves_append, all]
  rw [kept, h.pairs, agreed_eq_saves first agreed, same, none, List.append_nil]

/-- Once the settings have come, they are those of the last save since then, if there is one. When
every save is answered, and agreed to, the converter keeps the same. -/
theorem play_keeps_last_save (server : String) (device : Media.Device) (dir : List Char)
    (earlier later : List Move)
    (loaded : Call.loadSettings ∉ ((fresh server device dir).play earlier).outstanding) :
    let before := (fresh server device dir).play earlier
    let after := before.play later
    let made := saves (after.submitted.drop before.submitted.length)
    after.desk.settings = made.getLast?.getD before.desk.settings ∧
    (made ≠ [] → (∀ settings, Call.saveSettings settings ∉ after.outstanding) →
      (∀ answer, .settingsSaved answer ∈ after.drained → answer = .ok ()) →
      (saves after.submitted).getLast? = some after.desk.settings ∧
        after.kept = some after.desk.settings) := by
  intro before after made
  have balanced : before.Balanced := (balanced_fresh server device dir).play earlier
  have last : after.desk.settings = made.getLast?.getD before.desk.settings := by
    -- Since the load only a confirmed draft changes the settings, and it is saved.
    refine Loaded.play_keeps ⟨balanced, loaded⟩
      (P := fun settings _ saved => settings = saved.getLast?.getD before.desk.settings) rfl ?_ later
    intro settings dialog saved settings' dialog' more same edited
    cases edited with
    | untouched | drafted => rwa [List.append_nil]
    | saved => rw [List.getLast?_concat, Option.getD_some]
  refine ⟨last, ?_⟩
  intro any answered agreed
  have all : saves after.submitted = saves before.submitted ++ made := by
    obtain ⟨more, same⟩ := submitted_prefix before later
    show saves (before.play later).submitted =
      saves before.submitted ++ saves ((before.play later).submitted.drop before.submitted.length)
    rw [← same, List.drop_left, saves_append]
  have saved : (saves after.submitted).getLast? = some after.desk.settings := by
    rw [all, List.getLast?_append_of_ne_nil _ any, last, List.getLast?_eq_some_getLast any,
      Option.getD_some]
  exact ⟨saved, ((balanced.play later).kept_eq answered agreed).trans saved⟩

def presses (keys : List Desk.Key) : List Move :=
  keys.map fun key => .press ⟨0, .zero⟩ .empty { key := key }

/-- The dialog opens, its first row goes up by one, and the draft is confirmed. -/
def editMoves : List Move := presses [.function 2, .right, .enter]

/-- The worker makes so many calls, and then as many answers are taken up. -/
def answerMoves (service : Service Id) (n : Nat) : List Move :=
  List.replicate n (.serve service) ++ List.replicate n (.take ⟨0, .zero⟩)

def loadMoves : List Move := answerMoves (.keeping { resilience := 5 }) 3

def saveMoves : List Move := editMoves ++ answerMoves (.keeping { resilience := 5 }) 1

/-- The settings have come. -/
def loadedFirst : Ledger := (fresh "s" .cuda ['/']).play loadMoves

/-- The edit is made and saved after the settings have come. -/
theorem play_keeps_edit_after_load :
    Call.loadSettings ∉ loadedFirst.outstanding ∧
    saves ((loadedFirst.play saveMoves).submitted.drop loadedFirst.submitted.length) ≠ [] ∧
    (∀ settings, Call.saveSettings settings ∉ (loadedFirst.play saveMoves).outstanding) ∧
    (∀ answer, .settingsSaved answer ∈ (loadedFirst.play saveMoves).drained → answer = .ok ()) ∧
    (loadedFirst.play saveMoves).kept = some { resilience := 6 } := by
  have loaded : Call.loadSettings ∉ loadedFirst.outstanding := by
    have none : loadedFirst.outstanding = [] := rfl
    simp [none]
  have made : saves ((loadedFirst.play saveMoves).submitted.drop loadedFirst.submitted.length) ≠ [] :=
    List.cons_ne_nil _ _
  have answered : ∀ settings, Call.saveSettings settings ∉
      (loadedFirst.play saveMoves).outstanding := by
    have none : (loadedFirst.play saveMoves).outstanding = [] := rfl
    simp [none]
  have agreed : ∀ answer, .settingsSaved answer ∈ (loadedFirst.play saveMoves).drained →
      answer = .ok () := by
    have drained : (loadedFirst.play saveMoves).drained = [.health (.ok ()),
        .settingsLoaded (.ok (some { resilience := 5 })), .history (.ok []),
        .settingsSaved (.ok ())] := rfl
    simp [drained]
  have law := play_keeps_last_save "s" .cuda ['/'] loadMoves saveMoves loaded
  exact ⟨loaded, made, answered, agreed, (law.2 made answered agreed).2⟩

/-- The edit is made and saved before the settings come. -/
def editedFirst (settings : Settings) : Ledger :=
  (fresh "s" .cuda ['/']).play (editMoves ++ answerMoves (.keeping settings) 4)

/-- All calls are answered and the save is agreed to, but the settings that arrive then undo it: the
converter keeps the edit, the desk does not. -/
theorem edit_before_load_lost :
    (editedFirst { resilience := 5 }).outstanding = [] ∧
    (∀ answer, .settingsSaved answer ∈ (editedFirst { resilience := 5 }).drained →
      answer = .ok ()) ∧
    saves (editedFirst { resilience := 5 }).submitted = [{ resilience := 3 }] ∧
    (editedFirst { resilience := 5 }).kept = some { resilience := 3 } ∧
    (editedFirst { resilience := 5 }).desk.settings = { resilience := 5 } := by
  have drained : (editedFirst { resilience := 5 }).drained = [.health (.ok ()),
      .settingsLoaded (.ok (some { resilience := 5 })), .history (.ok []),
      .settingsSaved (.ok ())] := rfl
  exact ⟨rfl, by simp [drained], rfl, rfl, rfl⟩

end Ledger

end KeySheet
