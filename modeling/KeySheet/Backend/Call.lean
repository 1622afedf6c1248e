import KeySheet.Backend.Failure
import KeySheet.Conversion.Controller
import KeySheet.Settings.Basic
import KeySheet.Sheet.Layout

/-! What is asked of the converter. A call can be written down, and so can its answer, which says
what it answers; a service is whatever turns the one into the other. -/
namespace KeySheet.Backend

/-- The operations of a converter. -/
structure Service (m : Type → Type) where
  createTask : Media.Source → m (Except Failure Conversion.TaskId)
  taskStatus : Conversion.TaskId → m (Except Failure Media.StatusReport)
  stopTask : Conversion.TaskId → m (Except Failure Unit)
  /-- The sheet of a MIDI file that the converter has. -/
  convertToSheets : String → Settings → m (Except Failure Sheet.Score)
  /-- Sends a local file; the answer is the name that the converter keeps it under. -/
  uploadMidi : List Char → m (Except Failure String)
  history : Nat → m (Except Failure (List Media.Entry))
  deleteHistory : Decimal.Binary64 → m (Except Failure Unit)
  loadSettings : m (Except Failure (Option Settings))
  saveSettings : Settings → m (Except Failure Unit)
  health : m (Except Failure Unit)

inductive Call where
  | createTask (source : Media.Source)
  | taskStatus (task : Conversion.TaskId)
  | stopTask (task : Conversion.TaskId)
  | convertToSheets (midi : String) (settings : Settings)
  | uploadMidi (path : List Char)
  | history (limit : Nat)
  | deleteHistory (timestamp : Decimal.Binary64)
  | loadSettings
  | saveSettings (settings : Settings)
  | health
  deriving Repr

/-- Each answer carries what is needed to know where it belongs. -/
inductive Answer where
  | taskCreated (answer : Except Failure Conversion.TaskId)
  | taskStatus (task : Conversion.TaskId) (answer : Except Failure Media.StatusReport)
  | taskStopped (task : Conversion.TaskId) (answer : Except Failure Unit)
  | sheet (midi : String) (answer : Except Failure Sheet.Score)
  | uploaded (path : List Char) (answer : Except Failure String)
  | history (answer : Except Failure (List Media.Entry))
  | historyDeleted (timestamp : Decimal.Binary64) (answer : Except Failure Unit)
  | settingsLoaded (answer : Except Failure (Option Settings))
  | settingsSaved (answer : Except Failure Unit)
  | health (answer : Except Failure Unit)

/-- Carries out one call. -/
def Call.perform {m : Type → Type} [Functor m] (service : Service m) : Call → m Answer
  | .createTask source => .taskCreated <$> service.createTask source
  | .taskStatus task => .taskStatus task <$> service.taskStatus task
  | .stopTask task => .taskStopped task <$> service.stopTask task
  | .convertToSheets midi settings => .sheet midi <$> service.convertToSheets midi settings
  | .uploadMidi path => .uploaded path <$> service.uploadMidi path
  | .history limit => .history <$> service.history limit
  | .deleteHistory timestamp => .historyDeleted timestamp <$> service.deleteHistory timestamp
  | .loadSettings => .settingsLoaded <$> service.loadSettings
  | .saveSettings settings => .settingsSaved <$> service.saveSettings settings
  | .health => .health <$> service.health

end KeySheet.Backend
