import KeySheet.Desk.Basic
import KeySheet.Midi.Check
import KeySheet.Sheet.Document
import KeySheet.Text.Utf8

/-! What the user can have done at the desk. -/
namespace KeySheet.Desk

open Conversion (Time)

/-- Starts to convert the link as typed. The last result goes once a task is really asked for. -/
def startConversion (d : Desk) (t : Moment) : Desk :=
  match Media.Source.ofInput? d.url d.device with
  | none => { d with alert := some ⟨"Input Required", Conversion.Failure.message .emptyUrl⟩ }
  | some source =>
      let event := Conversion.Event.start source (Conversion.Button.ofSource source)
      let cleared := match (d.controller.step t.now event).2 with
        | some (.createTask _) => { d with lastResult := none }
        | _ => d
      cleared.dispatch t event

def stopConversion (d : Desk) (t : Moment) : Desk := d.dispatch t .stop

/-- Stops what runs, or starts. -/
def toggleConversion (d : Desk) (t : Moment) : Desk :=
  if d.controller.isRunning then d.stopConversion t else d.startConversion t

def toggleDevice (d : Desk) (now : Time) : Desk :=
  let device := d.device.toggled
  { d with device := device }.notify now ("Device: " ++ device.name)

def typeChar (d : Desk) (c : Char) : Desk := { d with url := d.url.push c }

/-- Takes the last character of the link away. -/
def eraseChar (d : Desk) : Desk := { d with url := String.ofList d.url.toList.dropLast }

/-- Shows the sheet of the highlighted conversion. -/
def openSelected (d : Desk) (now : Time) : Desk :=
  match d.history.current? with
  | none => d
  | some entry =>
      match entry.result.midiName with
      | some midi => d.openViewer midi entry.result.title
      | none => d.notify now "This entry has no MIDI file"

/-- Asks to delete the highlighted conversion; it stays until the converter agrees. -/
def deleteSelected (d : Desk) : Desk :=
  match d.history.current? with
  | none => d
  | some entry => d.submit (.deleteHistory entry.timestamp)

/-- Shows the sheet of the last finished conversion, if it has one. -/
def openLastResult (d : Desk) : Desk :=
  match d.lastResult with
  | none => d
  | some result =>
      match result.midiName with
      | some midi => d.openViewer midi result.title
      | none => d

/-- The other transposition mode, from the first line on. -/
def toggleMode (d : Desk) (now : Time) : Desk :=
  if d.viewer.isOpen then
    let mode := d.viewer.mode.toggled
    let turned := { d with viewer := { d.viewer with mode := mode, scroll := 0 } }
    (turned.notify now ("Transpose mode: " ++ mode.label)).requestSheet
  else d

/-- Sends a file that passes the check. -/
def upload (d : Desk) (now : Time) (files : Files.Tree) (path : List Char) : Desk :=
  match Midi.checkFile files path with
  | .ok summary =>
      let name := String.ofList ((Files.fileName? path).getD "file".toList)
      (d.notify now ("Uploading " ++ name ++ " (" ++ summary.describe ++ ")")).submit
        (.uploadMidi path)
  | .error e =>
      d.showError ("Failed to process " ++ String.ofList path ++ ": " ++ e.message)

/-- Acts on the selected entry of the browser. -/
def chooseFile (d : Desk) (now : Time) (files : Files.Tree) : Desk :=
  let (browser, picked) := d.browser.choose files
  let next := { d with browser := browser }
  match picked with
  | some path => next.upload now files path
  | none => next

/-- Closes the dialog. A draft that differs becomes the settings, here and at the converter, and
an open sheet is made anew. -/
def confirmSettings (d : Desk) : Desk :=
  let closed := { d with dialog := { d.dialog with isOpen := false } }
  let draft := d.dialog.draft
  if draft.same d.settings then closed
  else
    let saved := { closed with settings := draft }.submit (.saveSettings draft)
    if d.viewer.isOpen then saved.requestSheet else saved

/-- Why a sheet is not written to a file. -/
inductive SaveError where
  | noSheet
  | write (path : List Char) (cause : Files.Failure)
  deriving DecidableEq, Repr

def SaveError.message : SaveError → String
  | .noSheet => "No sheet loaded"
  | .write path cause => "Failed to write " ++ String.ofList path ++ ": " ++ cause.message

/-- Writes to a path, and gives it back beside the files afterwards. -/
def writeTo (files : Files.Tree) (path : List Char) (content : String) :
    Except SaveError (List Char × Files.Tree) :=
  match files.write path (Text.utf8 content) with
  | .ok after => .ok (path, after)
  | .error cause => .error (.write path cause)

theorem writeTo_ok {files after : Files.Tree} {path name : List Char} {content : String}
    (h : writeTo files path content = .ok (name, after)) :
    name = path ∧ files.write path (Text.utf8 content) = .ok after := by
  unfold writeTo at h
  split at h
  · next written =>
      cases h
      exact ⟨rfl, written⟩
  · cases h

/-- Writes the text of the sheet into a directory. -/
def saveText (d : Desk) (files : Files.Tree) (dir : List Char) :
    Except SaveError (List Char × Files.Tree) :=
  match d.viewer.sheet with
  | none => .error .noSheet
  | some score => writeTo files (Files.join dir (d.viewer.textName score)) score.text

/-- Writes the coloured sheet into a directory, as a page of its own. -/
def exportPage (d : Desk) (files : Files.Tree) (dir : List Char) :
    Except SaveError (List Char × Files.Tree) :=
  match d.viewer.sheet with
  | none => .error .noSheet
  | some _ =>
      let markup := String.ofList (Sheet.layoutMarkup d.viewer.layout)
      writeTo files (Files.join dir d.viewer.pageName) (Sheet.htmlPage d.viewer.title markup)

end KeySheet.Desk
