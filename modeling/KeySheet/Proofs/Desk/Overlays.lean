import KeySheet.Proofs.Desk.Calls

/-! What is open above the panels takes every key but those to leave. While it is there, only its
own part of the desk changes, and only its own calls are made; nothing leaks through to a panel
below. -/
namespace KeySheet.Desk

open Backend (Call)

/-- What takes the keys before the focused panel does. -/
inductive Overlay where
  | alert
  | help
  | browser
  | dialog
  deriving DecidableEq, Repr

/-- The one on top. -/
def overlay? (d : Desk) : Option Overlay :=
  if d.alert.isSome then some .alert
  else if d.helpShown then some .help
  else if d.browser.isOpen then some .browser
  else if d.dialog.isOpen then some .dialog
  else none

/-- Nothing else has changed than what a key may change there. -/
def Overlay.Confines (key : Key) (d d' : Desk) : Overlay → Prop
  | .alert =>
      d' = { d with
        alert := if key = .enter ∨ key = .escape ∨ key = .char ' ' then none else d.alert }
  | .help => d' = { d with helpShown := d'.helpShown, helpScroll := d'.helpScroll }
  | .browser => ∃ calls, (calls = [] ∨ ∃ path, calls = [.uploadMidi path]) ∧
      d' = { d with
        browser := d'.browser
        alert := d'.alert
        notice := d'.notice
        mail := d.mail.submitAll calls }
  | .dialog => ∃ calls, (calls = [] ∨ ∃ saved, calls = [.saveSettings saved] ∨
        ∃ midi settings, calls = [.saveSettings saved, .convertToSheets midi settings]) ∧
      d' = { d with
        dialog := d'.dialog
        settings := d'.settings
        viewer := { d.viewer with loading := d'.viewer.loading, error := d'.viewer.error }
        mail := d.mail.submitAll calls }

/-- What lies below every overlay. -/
structure Untouched (d d' : Desk) : Prop where
  url : d'.url = d.url
  focus : d'.focus = d.focus
  history : d'.history = d.history
  device : d'.device = d.device
  lastResult : d'.lastResult = d.lastResult
  controller : d'.controller = d.controller

variable {d d' : Desk} {key : Key}

theorem Overlay.Confines.untouched {o : Overlay} (h : o.Confines key d d') : Untouched d d' := by
  cases o with
  | alert | help =>
      rw [Overlay.Confines] at h
      rw [h]
      exact ⟨rfl, rfl, rfl, rfl, rfl, rfl⟩
  | browser | dialog =>
      obtain ⟨calls, -, same⟩ := h
      rw [same]
      exact ⟨rfl, rfl, rfl, rfl, rfl, rfl⟩

theorem alertKey_confined (d : Desk) (key : Key) : Overlay.alert.Confines key d (d.alertKey key) := by
  unfold Overlay.Confines
  fun_cases alertKey d key <;> simp_all

theorem helpKey_confined (d : Desk) (key : Key) : Overlay.help.Confines key d (d.helpKey key) := by
  unfold Overlay.Confines
  fun_cases helpKey d key <;> rfl

theorem browserKey_confined (d : Desk) (t : Moment) (files : Files.Tree) (key : Key) :
    Overlay.browser.Confines key d (d.browserKey t files key) := by
  have quiet {d' : Desk} (same : d' = { d with
      browser := d'.browser
      alert := d'.alert
      notice := d'.notice }) : Overlay.browser.Confines key d d' :=
    ⟨[], .inl rfl, by rw [Mailbox.submitAll_nil]; exact same⟩
  fun_cases browserKey d t files key
  case case5 =>
    unfold chooseFile
    generalize d.browser.choose files = choice
    obtain ⟨browser, picked⟩ := choice
    cases picked with
    | none => exact quiet rfl
    | some path =>
        dsimp only
        unfold upload
        split
        · exact ⟨[_], .inr ⟨path, rfl⟩, rfl⟩
        · exact quiet rfl
  all_goals exact quiet rfl

theorem confirmSettings_confined (d : Desk) (key : Key) :
    Overlay.dialog.Confines key d d.confirmSettings := by
  have saved {d' : Desk} (calls : List Call)
      (made : calls = [.saveSettings d.dialog.draft] ∨ ∃ midi settings,
        calls = [.saveSettings d.dialog.draft, .convertToSheets midi settings])
      (same : d' = { d with
        dialog := d'.dialog
        settings := d'.settings
        viewer := { d.viewer with loading := d'.viewer.loading, error := d'.viewer.error }
        mail := d.mail.submitAll calls }) : Overlay.dialog.Confines key d d' :=
    ⟨calls, .inr ⟨d.dialog.draft, made⟩, same⟩
  fun_cases confirmSettings d
  · exact ⟨[], .inl rfl, by rw [Mailbox.submitAll_nil]⟩
  · unfold requestSheet
    split
    · exact saved _ (.inl rfl) rfl
    · next midi _ =>
        refine saved [_, .convertToSheets midi (d.dialog.draft.forMode d.viewer.mode)]
          (.inr ⟨midi, _, rfl⟩) ?_
        rw [← List.singleton_append, ← Mailbox.submitAll_submitAll]
        rfl
  · exact saved _ (.inl rfl) rfl

theorem dialogKey_confined (d : Desk) (key : Key) :
    Overlay.dialog.Confines key d (d.dialogKey key) := by
  fun_cases dialogKey d key
  case case11 => exact confirmSettings_confined d _
  all_goals exact ⟨[], .inl rfl, by rw [Mailbox.submitAll_nil]⟩

theorem isQuit_iff (p : Press) :
    isQuit p = true ↔ p.ctrl = true ∧ (p.key = .char 'c' ∨ p.key = .char 'q') := by
  simp [isQuit]

/-- Every key that does not leave is taken by the overlay on top. -/
theorem press_overlay {o : Overlay} (d : Desk) (t : Moment) (files : Files.Tree) {p : Press}
    (stays : isQuit p = false) (shown : d.overlay? = some o) :
    (d.press t files p).quit = false ∧ (d.press t files p).files = files ∧
      o.Confines p.key d (d.press t files p).desk := by
  unfold overlay? at shown
  unfold press
  rw [stays]
  split at shown
  · next alert =>
      cases shown
      simp only [alert, if_true]
      exact ⟨rfl, rfl, alertKey_confined d p.key⟩
  split at shown
  · next calm help =>
      cases shown
      simp only [calm, help, if_true]
      exact ⟨rfl, rfl, helpKey_confined d p.key⟩
  split at shown
  · next calm closed browser =>
      cases shown
      simp only [calm, closed, browser, if_true]
      exact ⟨rfl, rfl, browserKey_confined d t files p.key⟩
  split at shown
  · next calm closed shut dialog =>
      cases shown
      simp only [calm, closed, shut, dialog, if_true]
      exact ⟨rfl, rfl, dialogKey_confined d p.key⟩
  · cases shown

/-- With nothing on top, a key goes to all panels first, and then to the focused one. -/
theorem press_clear (d : Desk) (t : Moment) (files : Files.Tree) {p : Press}
    (stays : isQuit p = false) (clear : d.overlay? = none) :
    d.press t files p =
      ((d.globalKey t files p).map (⟨·, files, false⟩)).getD (d.panelKey t files p) := by
  unfold overlay? at clear
  unfold press
  rw [stays]
  split at clear
  · cases clear
  split at clear
  · cases clear
  split at clear
  · cases clear
  split at clear
  · cases clear
  next calm closed shut settled =>
  simp only [calm, closed, shut, settled, if_false, Bool.false_eq_true]
  cases d.globalKey t files p <;> rfl

theorem panelKey_stays (d : Desk) (t : Moment) (files : Files.Tree) (p : Press) :
    (d.panelKey t files p).quit = false := by
  have told (done failed : String) (result : Except SaveError (List Char × Files.Tree)) :
      (d.report t files done failed result).quit = false := by
    fun_cases report d t files done failed result <;> rfl
  unfold panelKey
  split
  · rfl
  · rfl
  · unfold viewerKey
    split
    case h_10 | h_11 => exact told _ _ _
    all_goals rfl

theorem press_quit (d : Desk) (t : Moment) (files : Files.Tree) (p : Press) :
    (d.press t files p).quit = isQuit p := by
  unfold press
  split
  · next leaves => exact leaves.symm
  next stays =>
  rw [Bool.eq_false_iff.mpr stays]
  -- One line for each overlay, and then the keys of every panel and those of the focused one.
  split
  · rfl
  split
  · rfl
  split
  · rfl
  split
  · rfl
  split
  · rfl
  · exact panelKey_stays d t files p

/-- Ctrl with c or q leaves, no other key does, and nothing changes then. Any other key is taken by
what is open on top: only its part of the desk changes, and only its calls are made. -/
theorem press_modal (d : Desk) (t : Moment) (files : Files.Tree) (p : Press) :
    let r := d.press t files p
    (r.quit = true ↔ p.ctrl = true ∧ (p.key = .char 'c' ∨ p.key = .char 'q')) ∧
    (r.quit = true → r.desk = d ∧ r.files = files) ∧
    ∀ o, d.overlay? = some o →
      (r.quit = false → o.Confines p.key d r.desk) ∧ r.files = files ∧ Untouched d r.desk := by
  intro r
  have leaves : r.quit = isQuit p := press_quit d t files p
  have still : isQuit p = true → r = ⟨d, files, true⟩ := fun quit => if_pos quit
  refine ⟨leaves ▸ isQuit_iff p, ?_, ?_⟩
  · intro quit
    rw [still (leaves ▸ quit)]
    exact ⟨rfl, rfl⟩
  · intro o shown
    cases quit : isQuit p with
    | true =>
        rw [still quit]
        exact ⟨nofun, rfl, rfl, rfl, rfl, rfl, rfl, rfl⟩
    | false =>
        obtain ⟨-, files', confined⟩ := press_overlay d t files quit shown
        exact ⟨fun _ => confined, files', confined.untouched⟩

end KeySheet.Desk
