import KeySheet.Proofs.Desk.Cursors
import KeySheet.Proofs.Desk.Overlays
import KeySheet.Proofs.Desk.SheetCalls

/-! The panels stay in order: the focus is on one that is open, at most one overlay lies over them,
and every highlight is on a row that is there. Keys and answers come in any order, the files change
under the browser, and the rows on the screen change as they like. -/
namespace KeySheet.Desk

/-- At most one of the three lies over the panels. -/
def AtMostOne (help browser dialog : Bool) : Prop := [help, browser, dialog].count true ≤ 1

instance (help browser dialog : Bool) : Decidable (AtMostOne help browser dialog) :=
  inferInstanceAs (Decidable (_ ≤ _))

structure Orderly (d : Desk) : Prop where
  focus : d.focus = .viewer → d.viewer.isOpen = true
  overlays : AtMostOne d.helpShown d.browser.isOpen d.dialog.isOpen
  dialog : d.dialog.selected < Settings.Field.all.length
  browser : d.browser.InBounds
  history : d.history.InBounds

/-- Nothing lies over the panels. -/
structure Clear (d : Desk) : Prop where
  help : d.helpShown = false
  browser : d.browser.isOpen = false
  dialog : d.dialog.isOpen = false

/-- What can happen: a move, or other rows on the screen. -/
inductive Happening where
  | move (m : Move)
  | rows (history viewer : Nat)

def befall (d : Desk) : Happening → Desk
  | .move m => d.after m
  | .rows history viewer =>
      { d with historyRows := history, viewer := { d.viewer with visibleRows := viewer } }

theorem atMostOne_closing : ∀ {help browser dialog help' browser' dialog' : Bool},
    AtMostOne help browser dialog → (help' = true → help = true) →
    (browser' = true → browser = true) → (dialog' = true → dialog = true) →
    AtMostOne help' browser' dialog' := by
  decide

variable {d d' : Desk} {t : Moment}

theorem orderly_start (server : String) (device : Media.Device) (dir : List Char) :
    (start server device dir).Orderly where
  focus := nofun
  overlays := by
    show AtMostOne false false false
    decide
  dialog := by
    show 0 < _
    decide
  browser := Browser.inBounds_first rfl rfl
  history := History.inBounds_empty

theorem Orderly.look (h : d.Orderly) {viewer : Viewer} (same : viewer.isOpen = d.viewer.isOpen) :
    Orderly { d with viewer := viewer } :=
  { h with focus := fun focus => same.trans (h.focus focus) }

theorem Orderly.requestSheet (h : d.Orderly) : d.requestSheet.Orderly := by
  unfold Desk.requestSheet
  split
  · exact h
  · exact { h with }

theorem Orderly.openViewer (h : d.Orderly) (midi title : String) :
    (d.openViewer midi title).Orderly := by
  have shown : Orderly { d with viewer := d.viewer.openOn midi title, focus := .viewer } :=
    { h with focus := fun _ => rfl }
  exact shown.requestSheet

theorem Orderly.closeViewer (h : d.Orderly) : d.closeViewer.Orderly := by
  refine { h with focus := ?_ }
  show (if d.focus = .viewer then Focus.history else d.focus) = .viewer → _
  split
  · exact nofun
  · next other => exact fun focus => absurd focus other

theorem Orderly.carryOut (h : d.Orderly) (t : Moment) (effect : Conversion.Effect) :
    (d.carryOut t effect).Orderly := by
  cases effect with
  | completed => exact { h with history := History.record_inBounds _ _ }
  | createTask | fetchStatus | cancelTask | alert => exact { h with }

theorem Orderly.dispatch (h : d.Orderly) (t : Moment) (event : Conversion.Event) :
    (d.dispatch t event).Orderly := by
  unfold Desk.dispatch
  have turned {controller : Conversion.Controller} :
      Orderly { d with controller := controller } := { h with }
  split
  split
  · exact turned.carryOut t _
  · exact turned

/-- Even over an open dialog the viewer may open and a list may shrink. -/
theorem Orderly.receive (h : d.Orderly) (t : Moment) (answer : Backend.Answer) :
    (d.receive t answer).Orderly := by
  fun_cases Desk.receive d t answer
  case case1 | case2 | case3 => exact h.dispatch t _
  case case4 midi answer => exact h.look (receive_stays d.viewer midi answer).1
  case case5 =>
      unfold receiveUpload
      split
      · exact h.openViewer _ _
      · exact { h with }
  case case6 => exact { h with history := History.replace_inBounds _ _ }
  case case8 => exact { h with history := h.history.remove _ }
  all_goals exact { h with }

-- The keys of an overlay come only while it is open, so all they can do to the overlays is to close
-- this one.

theorem Orderly.helpKey (h : d.Orderly) (shown : d.helpShown = true) (key : Key) :
    (d.helpKey key).Orderly := by
  have confined : d.helpKey key =
      { d with helpShown := (d.helpKey key).helpShown, helpScroll := (d.helpKey key).helpScroll } :=
    helpKey_confined d key
  rw [confined]
  exact { h with overlays := atMostOne_closing h.overlays (fun _ => shown) id id }

theorem Orderly.browse (h : d.Orderly) (shown : d.browser.isOpen = true) {browser : Browser}
    (bounds : browser.InBounds) : Orderly { d with browser := browser } :=
  { h with
    browser := bounds
    overlays := atMostOne_closing h.overlays id (fun _ => shown) id }

theorem Orderly.browserKey (h : d.Orderly) (shown : d.browser.isOpen = true) (t : Moment)
    (files : Files.Tree) (key : Key) : (d.browserKey t files key).Orderly := by
  fun_cases Desk.browserKey d t files key
  case case1 | case2 => exact h.browse shown h.browser.selectPrev
  case case3 | case4 => exact h.browse shown h.browser.selectNext
  case case5 =>
      have bounds := h.browser.choose files
      unfold chooseFile
      generalize d.browser.choose files = choice at bounds
      obtain ⟨browser, picked⟩ := choice
      have chosen : Orderly { d with browser := browser } := h.browse shown bounds
      cases picked with
      | none => exact chosen
      | some path =>
          dsimp only
          unfold upload
          split <;> exact { chosen with }
  case case6 =>
      have closed : Orderly { d with browser := { d.browser with isOpen := false } } :=
        h.browse shown ⟨h.browser.selected, h.browser.above, h.browser.below⟩
      exact { closed with }
  case case7 => exact h

theorem Orderly.edit (h : d.Orderly) (shown : d.dialog.isOpen = true) {dialog : SettingsDialog}
    (row : dialog.selected < Settings.Field.all.length) : Orderly { d with dialog := dialog } :=
  { h with
    dialog := row
    overlays := atMostOne_closing h.overlays id id (fun _ => shown) }

theorem Orderly.dialogKey (h : d.Orderly) (shown : d.dialog.isOpen = true) (key : Key) :
    (d.dialogKey key).Orderly := by
  have stepped (forwards : Bool) : (d.dialog.step forwards).selected < Settings.Field.all.length := by
    unfold SettingsDialog.step
    split <;> exact h.dialog
  have lower : d.dialog.selectNext.selected < Settings.Field.all.length := by
    unfold SettingsDialog.selectNext
    split
    · next inside => exact inside
    · exact h.dialog
  fun_cases Desk.dialogKey d key
  case case1 | case2 => exact h.edit shown (Nat.lt_of_le_of_lt (Nat.sub_le _ _) h.dialog)
  case case3 | case4 => exact h.edit shown lower
  case case5 | case6 | case7 | case8 | case9 => exact h.edit shown (stepped _)
  case case10 | case12 => exact h.edit shown h.dialog
  case case11 =>
      have closed : Orderly { d with dialog := { d.dialog with isOpen := false } } :=
        h.edit shown h.dialog
      unfold confirmSettings
      dsimp only
      split
      · exact closed
      split
      · refine Orderly.requestSheet ?_
        exact { closed with }
      · exact { closed with }
  case case13 => exact h

theorem Orderly.openBrowser (h : d.Orderly) (clear : d.Clear) (files : Files.Tree) :
    (d.openBrowser files).Orderly :=
  { h with
    browser := Browser.enter_inBounds _ files _
    overlays := by
      rw [Desk.openBrowser, clear.help, clear.dialog]
      cases (d.browser.start files).isOpen <;> decide }

theorem Orderly.globalKey (h : d.Orderly) (clear : d.Clear) {files : Files.Tree} {p : Press}
    {next : Desk} (taken : d.globalKey t files p = some next) : next.Orderly := by
  have helped : Orderly { d with helpShown := true } := by
    refine { h with overlays := ?_ }
    show AtMostOne true d.browser.isOpen d.dialog.isOpen
    rw [clear.browser, clear.dialog]
    decide
  revert taken
  fun_cases Desk.globalKey d t files p <;> rintro ⟨⟩
  case case1 | case3 => exact helped
  case case4 =>
      -- The turn of the focus leaves out a closed viewer.
      refine { h with focus := ?_ }
      show d.focus.next d.viewer.isOpen = .viewer → d.viewer.isOpen = true
      cases d.focus <;> cases d.viewer.isOpen <;> simp [Focus.next]
  case case5 =>
      -- The dialog opens on its first row.
      refine { h with overlays := ?_, dialog := ?_ }
      · show AtMostOne d.helpShown d.browser.isOpen true
        rw [clear.help, clear.browser]
        decide
      · show 0 < _
        decide
  case case6 => exact { h with }
  case case7 => exact h.openBrowser clear files

theorem Orderly.inputKey (h : d.Orderly) (t : Moment) (p : Press) : (d.inputKey t p).Orderly := by
  fun_cases Desk.inputKey d t p
  case case1 =>
      unfold toggleConversion
      split
      · exact h.dispatch t .stop
      · unfold startConversion
        split
        · exact { h with }
        · have cleared : Orderly { d with lastResult := none } := { h with }
          dsimp only
          split
          · exact cleared.dispatch t _
          · exact h.dispatch t _
  case case2 => exact h.dispatch t .stop
  case case7 =>
      unfold openLastResult
      split
      · exact h
      split
      · exact h.openViewer _ _
      · exact h
  all_goals exact { h with }

theorem Orderly.historyKey (h : d.Orderly) (clear : d.Clear) (t : Moment) (files : Files.Tree)
    (key : Key) : (d.historyKey t files key).Orderly := by
  fun_cases Desk.historyKey d t files key
  case case1 | case2 => exact { h with history := h.history.selectPrev }
  case case3 | case4 => exact { h with history := h.history.selectNext _ }
  case case5 =>
      unfold openSelected
      split
      · exact h
      split
      · exact h.openViewer _ _
      · exact { h with }
  case case6 | case7 =>
      unfold deleteSelected
      split
      · exact h
      · exact { h with }
  case case8 => exact h.openBrowser clear files
  case case9 => exact h

theorem Orderly.toggleMode (h : d.Orderly) (now : Conversion.Time) : (d.toggleMode now).Orderly := by
  unfold Desk.toggleMode
  split
  · have turned : Orderly { d with viewer :=
        { d.viewer with mode := d.viewer.mode.toggled, scroll := 0 } } := h.look rfl
    refine Orderly.requestSheet ?_
    exact { turned with }
  · exact h

theorem Orderly.viewerKey (h : d.Orderly) (t : Moment) (files : Files.Tree) (key : Key) :
    (d.viewerKey t files key).desk.Orderly := by
  have told (done failed : String) (result : Except SaveError (List Char × Files.Tree)) :
      (d.report t files done failed result).desk.Orderly := by
    fun_cases report d t files done failed result <;> exact { h with }
  have scrolled (lines : Int) : (d.scrollLines lines).Orderly := h.look rfl
  unfold Desk.viewerKey
  split
  case h_8 => exact h.toggleMode t.now
  case h_10 | h_11 => exact told _ _ _
  case h_12 => exact h.closeViewer
  case h_13 => exact h
  case h_7 | h_9 => exact h.look rfl
  all_goals exact scrolled _

theorem Orderly.press (h : d.Orderly) (t : Moment) (files : Files.Tree) (p : Press) :
    (d.press t files p).desk.Orderly := by
  unfold Desk.press
  split
  · exact h
  split
  · unfold alertKey
    split <;> exact { h with }
  split
  · exact h.helpKey ‹_› p.key
  split
  · exact h.browserKey ‹_› t files p.key
  split
  · exact h.dialogKey ‹_› p.key
  next help browser dialog =>
  have clear : d.Clear := by
    simp only [Bool.not_eq_true] at help browser dialog
    exact ⟨help, browser, dialog⟩
  split
  · exact h.globalKey clear ‹_›
  · unfold panelKey
    split
    · exact h.inputKey t p
    · exact h.historyKey clear t files p.key
    · exact h.viewerKey t files p.key

theorem Orderly.after (h : d.Orderly) (m : Move) : (d.after m).Orderly := by
  cases m with
  | press t files p => exact h.press t files p
  | serve service =>
      obtain ⟨mail, same⟩ := serve_mail d service
      rw [same]
      exact { h with }
  | take t =>
      cases waiting : d.mail.answers with
      | nil =>
          rw [takeUp_idle waiting]
          exact h
      | cons answer rest =>
          rw [takeUp_oldest waiting]
          have taken : Orderly { d with mail := d.mail.taken } := { h with }
          exact taken.receive t answer
  | tick t => exact h.dispatch t .tick
  | expire now =>
      obtain ⟨notice, same⟩ := Ledger.expireNotice_eq d now
      rw [Desk.after, same]
      exact { h with }
  | draw width height =>
      have same : (d.resize width height).viewer.isOpen = d.viewer.isOpen := by
        unfold resize
        dsimp only
        split <;> rfl
      exact { h with focus := fun focus => same.trans (h.focus focus) }

theorem Orderly.befall (h : d.Orderly) (happening : Happening) : (d.befall happening).Orderly := by
  cases happening with
  | move m => exact h.after m
  | rows => exact { h with }

theorem Orderly.foldl_befall (h : d.Orderly) (happenings : List Happening) :
    (happenings.foldl Desk.befall d).Orderly := by
  induction happenings generalizing d with
  | nil => exact h
  | cons first rest ih => exact ih (h.befall first)

/-- Whatever happens, the panels are in order. So the browser acts on an entry that is there unless
there is none, and what is drawn of its entries and of the history are slices within the lists. -/
theorem run_orderly (server : String) (device : Media.Device) (dir : List Char)
    (happenings : List Happening) :
    let d := happenings.foldl befall (start server device dir)
    d.Orderly ∧
    (d.browser.entries ≠ [] → ∃ entry, d.browser.entries[d.browser.selected]? = some entry) ∧
    ∀ rows : Nat,
      (let stop := min (d.history.scroll + rows) d.history.entries.length
       d.history.scroll ≤ stop ∧ stop ≤ d.history.entries.length ∧
        ∀ focused, (Screen.historyLines d.history rows focused).length = stop - d.history.scroll) ∧
      (let stop := min (d.browser.scroll + rows) d.browser.entries.length
       d.browser.scroll ≤ stop ∧ stop ≤ d.browser.entries.length ∧
        ∀ files, (Screen.browserLines files d.browser rows).length = stop - d.browser.scroll) := by
  intro d
  have orderly : d.Orderly := (orderly_start server device dir).foldl_befall happenings
  refine ⟨orderly, ?_, ?_⟩
  · intro filled
    have inside := orderly.browser.selected.resolve_right fun empty => filled empty.1
    exact ⟨_, List.getElem?_eq_getElem inside⟩
  · intro rows
    refine ⟨⟨?_, Nat.min_le_right _ _, Screen.historyLines_length d.history rows⟩,
      ⟨?_, Nat.min_le_right _ _, fun files => Screen.browserLines_length files d.browser rows⟩⟩
    · exact Nat.le_min.mpr ⟨Nat.le_add_right _ _, orderly.history.scroll_le⟩
    · exact Nat.le_min.mpr ⟨Nat.le_add_right _ _, orderly.browser.scroll_le⟩

end KeySheet.Desk
