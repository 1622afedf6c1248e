import KeySheet.Desk.Actions

/-! What happens at the desk without a key: answers are taken up in order, and then the clock
ticks. -/
namespace KeySheet.Desk

open Backend (Answer)

/-- A file has arrived at the converter, and is shown; or it has not. -/
def receiveUpload (d : Desk) (path : List Char) : Except Backend.Failure String → Desk
  | .ok midi =>
      let title := match Files.stem? path with
        | some stem => String.ofList stem
        | none => midi
      d.openViewer midi title
  | .error e =>
      let name := String.ofList ((Files.fileName? path).getD "file".toList)
      d.showError ("Failed to process " ++ name ++ ": " ++ e.userMessage)

/-- Takes up one answer. -/
def receive (d : Desk) (t : Moment) : Answer → Desk
  | .taskCreated answer => d.dispatch t (.created answer)
  | .taskStatus task answer => d.dispatch t (.status task answer)
  | .taskStopped task answer => d.dispatch t (.stopped task answer)
  | .sheet midi answer => { d with viewer := d.viewer.receive midi answer }
  | .uploaded path answer => d.receiveUpload path answer
  | .history (.ok entries) => { d with history := d.history.replace entries }
  | .history (.error e) => d.notify t.now ("Could not load history: " ++ e.userMessage)
  | .historyDeleted timestamp (.ok _) =>
      { d with history := (d.history.remove timestamp).1 }.notify t.now "History item deleted"
  | .historyDeleted _ (.error e) => d.showError ("Failed to delete: " ++ e.userMessage)
  | .settingsLoaded (.ok (some settings)) => { d with settings := settings }
  | .settingsLoaded _ => d
  | .settingsSaved (.ok _) => d.notify t.now "Settings saved"
  | .settingsSaved (.error e) => d.notify t.now ("Settings not saved: " ++ e.userMessage)
  | .health answer => { d with online := some answer.toBool }

/-- Takes up answers in order. -/
def drain (t : Moment) : List Answer → Desk → Desk
  | [], d => d
  | answer :: rest, d => drain t rest ({ d with mail := d.mail.taken }.receive t answer)

/-- All the answers there are, then the tick. -/
def update (d : Desk) (t : Moment) : Desk := (drain t d.mail.answers d).dispatch t .tick

/-- The worker's step. -/
def serve {m : Type → Type} [Monad m] (service : Backend.Service m) (d : Desk) : m Desk := do
  return { d with mail := ← d.mail.serve service }

end KeySheet.Desk
