import KeySheet.Backend.Call
import KeySheet.Backend.Exchange

/-! The converter over HTTP: each operation is one exchange with an address. -/
namespace KeySheet.Backend

/-- What it takes to reach a converter. -/
structure Transport (m : Type → Type) where
  /-- Sends a request to an address; fails with a text when no answer comes. -/
  send : Address → Request → m (Except String Response)
  /-- The content of a local file. -/
  read : List Char → m (Except Files.Failure (List UInt8))

/-- Sends the request of an exchange, and reads the answer. -/
def Exchange.run {m : Type → Type} [Monad m] {α : Type} (t : Transport m) (base : String)
    (e : Exchange α) : m (Except Failure α) := do
  match e.request.address? base with
  | some address => return e.finish (← t.send address e.request)
  | none => return .error (.transport "this is not an address of a host")

/-- The service at an address. A file that cannot be read is not sent. -/
def Service.http {m : Type → Type} [Monad m] (t : Transport m) (server : String) : Service m :=
  let base := baseOf server
  { createTask := fun source => (Backend.createTask source).run t base
    taskStatus := fun task => (Backend.taskStatus task).run t base
    stopTask := fun task => (Backend.stopTask task).run t base
    convertToSheets := fun midi settings => (Backend.convertToSheets midi settings).run t base
    uploadMidi := fun path => do
      match ← t.read path with
      | .ok content => (Backend.uploadMidi path content).run t base
      | .error cause => return .error (.file cause.message)
    history := fun limit => (Backend.history limit).run t base
    deleteHistory := fun timestamp => (Backend.deleteHistory timestamp).run t base
    loadSettings := Backend.loadSettings.run t base
    saveSettings := fun settings => (Backend.saveSettings settings).run t base
    health := Backend.health.run t base }

end KeySheet.Backend
