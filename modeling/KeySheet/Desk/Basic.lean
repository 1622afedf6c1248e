import KeySheet.Decimal.Notation
import KeySheet.Desk.Browser
import KeySheet.Desk.Mailbox
import KeySheet.Desk.SettingsDialog
import KeySheet.Desk.Viewer
import KeySheet.History
import KeySheet.Settings.Codec

/-! The desk: all that the interactive client keeps, and the steps that change one part of it and
ask something of the converter. Nothing here waits; a call goes to the mailbox and its answer comes
back from there. -/
namespace KeySheet

namespace Desk

open Conversion (Time)

/-- The panel that the keys go to. -/
inductive Focus where
  /-- The link to convert. -/
  | input
  | history
  | viewer
  deriving DecidableEq, Repr, Inhabited

/-- The next panel in turn; the viewer is left out while it is closed. -/
def Focus.next (f : Focus) (viewerOpen : Bool) : Focus :=
  match f with
  | input => history
  | history => if viewerOpen then viewer else input
  | viewer => input

/-- One look at the clocks. -/
structure Moment where
  /-- Milliseconds on the clock that never goes back. -/
  now : Time
  /-- Seconds of the calendar, for entries of the history. -/
  stamp : Decimal.Binary64
  deriving DecidableEq, Repr

/-- A message that must be dismissed. -/
structure Alert where
  title : String
  message : String
  deriving DecidableEq, Repr

def Alert.error (message : String) : Alert := ⟨"Error", message⟩

/-- A message that goes away by itself. -/
structure Notice where
  text : String
  since : Time
  deriving DecidableEq, Repr

/-- How long a notice stays, in milliseconds. -/
def noticeTime : Nat := 3000

end Desk

structure Desk where
  /-- The converter's address, as shown. -/
  server : String
  device : Media.Device := .cuda
  url : String := ""
  focus : Desk.Focus := .input
  controller : Conversion.Controller := {}
  mail : Desk.Mailbox := {}
  history : History := {}
  /-- The rows of the history that were last drawn. -/
  historyRows : Nat := 10
  lastResult : Option Media.Result := none
  viewer : Desk.Viewer := {}
  settings : Settings := {}
  dialog : Desk.SettingsDialog := {}
  browser : Desk.Browser
  alert : Option Desk.Alert := none
  notice : Option Desk.Notice := none
  helpShown : Bool := false
  helpScroll : Nat := 0
  /-- Whether the converter answers; not known before the first answer. -/
  online : Option Bool := none

namespace Desk

open Conversion (Time)

def submit (d : Desk) (call : Backend.Call) : Desk := { d with mail := d.mail.submit call }

def notify (d : Desk) (now : Time) (text : String) : Desk := { d with notice := some ⟨text, now⟩ }

def showError (d : Desk) (message : String) : Desk := { d with alert := some (.error message) }

/-- Lets a notice go that has stayed longer than it may. -/
def expireNotice (d : Desk) (now : Time) : Desk :=
  match d.notice with
  | some n => if noticeTime < now - n.since then { d with notice := none } else d
  | none => d

def refreshHistory (d : Desk) : Desk := d.submit (.history History.capacity)

/-- A fresh desk on a converter, which looks at a directory first. It asks at once whether the
converter is there, for the settings it keeps, and for the history. -/
def start (server : String) (device : Media.Device) (dir : List Char) : Desk :=
  let d : Desk := { server := server, device := device, browser := { dir := dir } }
  ((d.submit .health).submit .loadSettings).refreshHistory

/-- Asks for the sheet of the viewer's file, in its mode and with the current settings. -/
def requestSheet (d : Desk) : Desk :=
  match d.viewer.midi with
  | none => d
  | some midi =>
      { d with viewer := d.viewer.await }.submit
        (.convertToSheets midi (d.settings.forMode d.viewer.mode))

/-- Shows a file that the converter has. -/
def openViewer (d : Desk) (midi title : String) : Desk :=
  { d with viewer := d.viewer.openOn midi title, focus := .viewer }.requestSheet

/-- The keys go back to the history. -/
def closeViewer (d : Desk) : Desk :=
  { d with
    viewer := { d.viewer with isOpen := false }
    focus := if d.focus = .viewer then .history else d.focus }

/-- The end of a conversion: its result is shown, comes first in the history, and the converter's
own list is asked for, which has the timestamp that counts. -/
def finish (d : Desk) (t : Moment) (result : Media.Result) : Desk :=
  let text := match result.conversionTime with
    | some seconds => "Done in: " ++ Decimal.plain.show seconds ++ " s."
    | none => "Done!"
  { d.notify t.now text with
    history := d.history.record (.ofResult t.stamp result)
    lastResult := some result }.refreshHistory

/-- Does what the controller asks for. -/
def carryOut (d : Desk) (t : Moment) : Conversion.Effect → Desk
  | .createTask source => d.submit (.createTask source)
  | .fetchStatus task => d.submit (.taskStatus task)
  | .cancelTask task => d.submit (.stopTask task)
  | .completed result => d.finish t result
  | .alert why => d.showError ("Error: " ++ why.message)

/-- Gives the controller an event, and does what it asks for. -/
def dispatch (d : Desk) (t : Moment) (event : Conversion.Event) : Desk :=
  let (controller, effect) := d.controller.step t.now event
  let next := { d with controller := controller }
  match effect with
  | some effect => next.carryOut t effect
  | none => next

end Desk

end KeySheet
