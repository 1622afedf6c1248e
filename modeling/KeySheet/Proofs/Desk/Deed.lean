import KeySheet.Desk.Keys
import KeySheet.Proofs.Settings.Steps

/-! What a key can do, said once. Whatever is open and wherever the focus is, a key looks at
something else, edits the draft, asks the converter for one thing, or starts or stops the
conversion; laws of the desk go by these deeds and not by the keys. -/
namespace KeySheet.Desk

/-- The dialog of the settings opens on a copy of them; while it is open, its draft is edited or it
is closed, and neither touches the fields of other clients. -/
inductive Drafts (settings : Settings) (dialog : SettingsDialog) : SettingsDialog → Prop
  | opened : Drafts settings dialog (.start settings)
  | edited {next} : dialog.isOpen = true → next.draft.extra = dialog.draft.extra →
      Drafts settings dialog next

/-- A sheet can be opened only from the history or from the last result. -/
def HasResult (d : Desk) : Prop := d.history.current? ≠ none ∨ d.lastResult ≠ none

inductive Deed (t : Moment) (d : Desk) : Desk → Prop
  /-- Only what is typed, chosen or told changes. -/
  | glance {url focus device alert notice helpShown helpScroll browser} :
      Deed t d { d with
        url := url
        focus := focus
        device := device
        alert := alert
        notice := notice
        helpShown := helpShown
        helpScroll := helpScroll
        browser := browser }
  | draft {dialog} : Drafts d.settings d.dialog dialog → Deed t d { d with dialog := dialog }
  | confirm : d.dialog.isOpen = true → Deed t d d.confirmSettings
  | highlight {history} : history.entries = d.history.entries →
      Deed t d { d with history := history }
  | reload : Deed t d (d.refreshHistory.notify t.now "Reloading history")
  | delete {entry} : d.history.current? = some entry →
      Deed t d (d.submit (.deleteHistory entry.timestamp))
  | upload {browser notice path} :
      Deed t d ({ d with browser := browser, notice := notice }.submit (.uploadMidi path))
  | view {midi title} : d.HasResult → Deed t d (d.openViewer midi title)
  | turn : d.viewer.isOpen = true → Deed t d (d.toggleMode t.now)
  | page {scroll showTransposes} : scroll = d.viewer.scroll ∨ scroll ≤ d.viewer.maxScroll →
      Deed t d { d with viewer :=
        { d.viewer with scroll := scroll, showTransposes := showTransposes } }
  | close : Deed t d d.closeViewer
  | start : Deed t d (d.startConversion t)
  | stop : Deed t d (d.stopConversion t)

variable (d : Desk) (t : Moment) (files : Files.Tree)

theorem idle_deed : Deed t d d := .glance

theorem alertKey_deed (key : Key) : Deed t d (d.alertKey key) := by
  fun_cases alertKey d key <;> exact .glance

theorem helpKey_deed (key : Key) : Deed t d (d.helpKey key) := by
  fun_cases helpKey d key <;> exact .glance

theorem upload_deed (browser : Browser) (path : List Char) :
    Deed t d ({ d with browser := browser }.upload t.now files path) := by
  unfold upload
  split
  · exact .upload
  · exact .glance

theorem chooseFile_deed : Deed t d (d.chooseFile t.now files) := by
  unfold chooseFile
  generalize d.browser.choose files = choice
  obtain ⟨browser, picked⟩ := choice
  cases picked with
  | none => exact .glance
  | some path => exact upload_deed d t files browser path

theorem browserKey_deed (key : Key) : Deed t d (d.browserKey t files key) := by
  fun_cases browserKey d t files key <;> first | exact .glance | exact chooseFile_deed d t files

theorem step_extra (field : Settings.Field) (forwards : Bool) (s : Settings) :
    (field.step forwards s).extra = s.extra :=
  (field.adjust?_sameBut _ s (Option.some_get _).symm).extra

theorem selectNext_draft (dialog : SettingsDialog) : dialog.selectNext.draft = dialog.draft := by
  unfold SettingsDialog.selectNext
  split <;> rfl

theorem stepped_extra (dialog : SettingsDialog) (forwards : Bool) :
    (dialog.step forwards).draft.extra = dialog.draft.extra := by
  unfold SettingsDialog.step
  split
  · exact step_extra _ forwards dialog.draft
  · rfl

theorem dialogKey_deed (shown : d.dialog.isOpen = true) (key : Key) : Deed t d (d.dialogKey key) := by
  have edited {dialog : SettingsDialog} (same : dialog.draft.extra = d.dialog.draft.extra) :
      Deed t d { d with dialog := dialog } := .draft (.edited shown same)
  fun_cases dialogKey d key
  case case3 | case4 => exact edited (congrArg Settings.extra (selectNext_draft d.dialog))
  case case5 | case6 | case7 | case8 | case9 => exact edited (stepped_extra d.dialog _)
  case case11 => exact .confirm shown
  all_goals exact edited rfl

theorem globalKey_deed (p : Press) {next : Desk} (h : d.globalKey t files p = some next) :
    Deed t d next := by
  revert h
  fun_cases globalKey d t files p <;> rintro ⟨⟩ <;>
    first | exact .glance | exact .draft .opened | exact .reload

theorem startOrStop_deed : Deed t d (d.toggleConversion t) := by
  unfold toggleConversion
  split
  · exact .stop
  · exact .start

theorem openLastResult_deed : Deed t d d.openLastResult := by
  unfold openLastResult
  split
  · exact .glance
  · next shown =>
      split
      · exact .view (.inr (by simp [shown]))
      · exact .glance

theorem inputKey_deed (p : Press) : Deed t d (d.inputKey t p) := by
  fun_cases inputKey d t p
  case case1 => exact startOrStop_deed d t
  case case2 => exact .stop
  all_goals first | exact .glance | exact openLastResult_deed d t

theorem openSelected_deed : Deed t d (d.openSelected t.now) := by
  unfold openSelected
  split
  · exact .glance
  · next shown =>
      split
      · exact .view (.inl (by simp [shown]))
      · exact .glance

theorem deleteSelected_deed : Deed t d d.deleteSelected := by
  unfold deleteSelected
  split
  · exact .glance
  · exact .delete ‹_›

theorem selectPrev_entries (h : History) : h.selectPrev.entries = h.entries := by
  unfold History.selectPrev
  split <;> rfl

theorem selectNext_entries (h : History) (rows : Nat) :
    (h.selectNext rows).entries = h.entries := by
  unfold History.selectNext
  split <;> rfl

theorem historyKey_deed (key : Key) : Deed t d (d.historyKey t files key) := by
  fun_cases historyKey d t files key
  case case1 | case2 => exact .highlight (selectPrev_entries d.history)
  case case3 | case4 => exact .highlight (selectNext_entries d.history d.historyRows)
  case case5 => exact openSelected_deed d t
  case case6 | case7 => exact deleteSelected_deed d t
  all_goals exact .glance

theorem turn_deed : Deed t d (d.toggleMode t.now) := by
  cases shown : d.viewer.isOpen with
  | true => exact .turn shown
  | false =>
      rw [toggleMode, shown]
      exact .glance

theorem report_deed (done failed : String) (result : Except SaveError (List Char × Files.Tree)) :
    Deed t d (d.report t files done failed result).desk := by
  fun_cases report d t files done failed result <;> exact .glance

theorem scrollTo_le (v : Viewer) (line : Int) : (v.scrollTo line).scroll ≤ v.maxScroll := by
  unfold Viewer.scrollTo
  dsimp only
  omega

theorem viewerKey_deed (key : Key) : Deed t d (d.viewerKey t files key).desk := by
  have scrolled (lines : Int) : Deed t d (d.scrollLines lines) :=
    .page (.inr (scrollTo_le d.viewer (d.viewer.scroll + lines)))
  unfold viewerKey
  split
  case h_7 =>
      have top : 0 ≤ d.viewer.maxScroll := Nat.zero_le _
      exact .page (.inr top)
  case h_8 => exact turn_deed d t
  case h_9 => exact .page (.inl rfl)
  case h_10 | h_11 => exact report_deed d t files _ _ _
  case h_12 => exact .close
  case h_13 => exact .glance
  all_goals exact scrolled _

theorem panelKey_deed (p : Press) : Deed t d (d.panelKey t files p).desk := by
  unfold panelKey
  split
  · exact inputKey_deed d t p
  · exact historyKey_deed d t files p.key
  · exact viewerKey_deed d t files p.key

/-- Every key does one deed. -/
theorem press_deed (p : Press) : Deed t d (d.press t files p).desk := by
  unfold press
  split
  · exact idle_deed d t
  split
  · exact alertKey_deed d t p.key
  split
  · exact helpKey_deed d t p.key
  split
  · exact browserKey_deed d t files p.key
  split
  · exact dialogKey_deed d t ‹_› p.key
  split
  · exact globalKey_deed d t files p ‹_›
  · exact panelKey_deed d t files p

end KeySheet.Desk
