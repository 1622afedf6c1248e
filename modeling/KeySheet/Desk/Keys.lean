import KeySheet.Desk.Actions

/-! What each key does. A message or an open panel takes every key; otherwise a few keys work
everywhere and the rest goes to the focused panel. Only the keys to leave are above all that. -/
namespace KeySheet.Desk

inductive Key where
  | char (c : Char)
  | enter
  | escape
  | tab
  | backspace
  | delete
  | insert
  | up
  | down
  | left
  | right
  | pageUp
  | pageDown
  | home
  | bottom
  | function (n : Nat)
  /-- Any other key; none of them does anything. -/
  | other
  deriving DecidableEq, Repr

structure Press where
  key : Key
  ctrl : Bool := false
  deriving DecidableEq, Repr

/-- After a key: the desk, the files, and whether the user leaves. -/
structure Pressed where
  desk : Desk
  files : Files.Tree
  quit : Bool := false

/-- The reach of the scroll of the help. -/
def helpReach : Nat := 65535

def scrollHelp (d : Desk) (scroll : Nat) : Desk := { d with helpScroll := min scroll helpReach }

def isQuit (p : Press) : Bool := p.ctrl && (p.key = .char 'c' || p.key = .char 'q')

def alertKey (d : Desk) : Key → Desk
  | .enter | .escape | .char ' ' => { d with alert := none }
  | _ => d

def helpKey (d : Desk) : Key → Desk
  | .char '?' | .escape | .function 1 => { d with helpShown := false, helpScroll := 0 }
  | .up | .char 'k' => d.scrollHelp (d.helpScroll - 1)
  | .down | .char 'j' => d.scrollHelp (d.helpScroll + 1)
  | .pageUp => d.scrollHelp (d.helpScroll - 10)
  | .pageDown => d.scrollHelp (d.helpScroll + 10)
  | .home => d.scrollHelp 0
  | _ => d

def browserKey (d : Desk) (t : Moment) (files : Files.Tree) : Key → Desk
  | .up | .char 'k' => { d with browser := d.browser.selectPrev }
  | .down | .char 'j' => { d with browser := d.browser.selectNext }
  | .enter => d.chooseFile t.now files
  | .escape =>
      { d with browser := { d.browser with isOpen := false } }.notify t.now "Upload cancelled"
  | _ => d

def dialogKey (d : Desk) : Key → Desk
  | .up | .char 'k' => { d with dialog := d.dialog.selectPrev }
  | .down | .char 'j' => { d with dialog := d.dialog.selectNext }
  | .left | .char 'h' => { d with dialog := d.dialog.step false }
  | .right | .char 'l' | .char ' ' => { d with dialog := d.dialog.step true }
  | .char 'r' => { d with dialog := d.dialog.restore }
  | .enter => d.confirmSettings
  | .escape => { d with dialog := { d.dialog with isOpen := false } }
  | _ => d

def openBrowser (d : Desk) (files : Files.Tree) : Desk :=
  { d with browser := d.browser.start files }

/-- The keys that work in every panel; `none` for all others. -/
def globalKey (d : Desk) (t : Moment) (files : Files.Tree) (p : Press) : Option Desk :=
  match p.key with
  | .function 1 => some { d with helpShown := true }
  | .char '?' => if d.focus = .input then none else some { d with helpShown := true }
  | .tab => some { d with focus := d.focus.next d.viewer.isOpen }
  | .function 2 => some { d with dialog := .start d.settings }
  | .function 5 => some (d.refreshHistory.notify t.now "Reloading history")
  | .char 'o' => if p.ctrl then some (d.openBrowser files) else none
  | _ => none

def inputKey (d : Desk) (t : Moment) (p : Press) : Desk :=
  match p.key with
  | .enter => d.toggleConversion t
  | .escape => d.stopConversion t
  | .backspace => d.eraseChar
  | .char c =>
      if !p.ctrl then d.typeChar c
      else if c = 'u' then { d with url := "" }
      else if c = 'd' then d.toggleDevice t.now
      else if c = 'v' then d.openLastResult
      else d
  | _ => d

def historyKey (d : Desk) (t : Moment) (files : Files.Tree) : Key → Desk
  | .up | .char 'k' => { d with history := d.history.selectPrev }
  | .down | .char 'j' => { d with history := d.history.selectNext d.historyRows }
  | .enter => d.openSelected t.now
  | .char 'd' | .delete => d.deleteSelected
  | .char 'o' => d.openBrowser files
  | _ => d

/-- Tells where a sheet was written, or why it was not. -/
def report (d : Desk) (t : Moment) (files : Files.Tree) (done failed : String) :
    Except SaveError (List Char × Files.Tree) → Pressed
  | .ok (path, after) => ⟨d.notify t.now (done ++ " " ++ String.ofList path), after, false⟩
  | .error e => ⟨d.notify t.now (failed ++ " failed: " ++ e.message), files, false⟩

/-- The working directory, as a path. -/
def workingPath (files : Files.Tree) : List Char :=
  '/' :: ['/'].intercalate files.workingDir

/-- Moves the sheet by lines. -/
def scrollLines (d : Desk) (lines : Int) : Desk :=
  { d with viewer := d.viewer.scrollTo (d.viewer.scroll + lines) }

/-- Moves the sheet by so many lines as a word says, if the sum is a word. -/
def scrollViewer? (d : Desk) (delta : Int32) : Option Desk :=
  (word? (d.viewer.scroll + delta.toInt)).map (fun line =>
    { d with viewer := d.viewer.scrollTo line })

/-- No key moves the sheet by more than a page, and so none leaves the words. -/
theorem scrollViewer?_small {d : Desk} {delta : Int32} (scroll : d.viewer.scroll ≤ Viewer.reach)
    (down : -Viewer.reach ≤ delta.toInt) (up : delta.toInt ≤ Viewer.reach) :
    d.scrollViewer? delta = some (d.scrollLines delta.toInt) := by
  unfold Viewer.reach at scroll down up
  have word : IsWord (d.viewer.scroll + delta.toInt) := ⟨by omega, by omega⟩
  rw [scrollViewer?, word?, if_pos word]
  rfl

def viewerKey (d : Desk) (t : Moment) (files : Files.Tree) (key : Key) : Pressed :=
  match key with
  | .up | .char 'k' => ⟨d.scrollLines (-1), files, false⟩
  | .down | .char 'j' => ⟨d.scrollLines 1, files, false⟩
  | .pageUp => ⟨d.scrollLines (-d.viewer.page), files, false⟩
  | .pageDown => ⟨d.scrollLines d.viewer.page, files, false⟩
  | .home => ⟨{ d with viewer := { d.viewer with scroll := 0 } }, files, false⟩
  | .char 'm' => ⟨d.toggleMode t.now, files, false⟩
  | .char 't' => ⟨{ d with viewer := d.viewer.toggleTransposes }, files, false⟩
  | .char 's' => d.report t files "Saved" "Save" (d.saveText files (workingPath files))
  | .char 'e' => d.report t files "Exported" "Export" (d.exportPage files (workingPath files))
  | .escape => ⟨d.closeViewer, files, false⟩
  | _ => ⟨d, files, false⟩

/-- A key in the focused panel. -/
def panelKey (d : Desk) (t : Moment) (files : Files.Tree) (p : Press) : Pressed :=
  match d.focus with
  | .input => ⟨d.inputKey t p, files, false⟩
  | .history => ⟨d.historyKey t files p.key, files, false⟩
  | .viewer => d.viewerKey t files p.key

/-- One key. -/
def press (d : Desk) (t : Moment) (files : Files.Tree) (p : Press) : Pressed :=
  if isQuit p then ⟨d, files, true⟩
  else if d.alert.isSome then ⟨d.alertKey p.key, files, false⟩
  else if d.helpShown then ⟨d.helpKey p.key, files, false⟩
  else if d.browser.isOpen then ⟨d.browserKey t files p.key, files, false⟩
  else if d.dialog.isOpen then ⟨d.dialogKey p.key, files, false⟩
  else match d.globalKey t files p with
    | some next => ⟨next, files, false⟩
    | none => d.panelKey t files p

end KeySheet.Desk
