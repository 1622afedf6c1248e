import KeySheet.Backend.Failure
import KeySheet.Conversion.Buttons
import KeySheet.Media.Result

/-! The state of the one conversion there is. The controller neither waits nor calls: it takes an
event and the time, and names the one thing to be done next, if there is one. Answers come back as
further events; an event that is not due in the current phase changes nothing. -/
namespace KeySheet.Conversion

/-- Whole milliseconds on a clock that never goes back. The clock itself is finer, and all intervals
here are whole milliseconds: a unit that divides them would change nothing but the numbers. -/
abbrev Time := Nat

abbrev TaskId := String

/-- From one status report to the next question. -/
def pollInterval : Nat := 2000

/-- Status reports until the conversion counts as lost. -/
def maxAttempts : Nat := 300

/-- How long the end of a conversion stays on the screen. -/
def resetDelay : Nat := 500

/-- How a conversion fails, as the user is told. -/
inductive Failure where
  | emptyUrl
  | start (text : String)
  | backend (text : String)
  | timeout
  deriving DecidableEq, Repr

def Failure.message : Failure → String
  | emptyUrl => "Please enter a URL"
  | start text => "Failed to start conversion: " ++ text
  | backend text => text
  | timeout => "Conversion timeout"

inductive Phase where
  | idle
  /-- The task is being created. -/
  | submitting
  | polling
  | completed
  | cancelled
  | failed (why : Failure)
  deriving DecidableEq, Repr

def Phase.isTerminal : Phase → Bool
  | completed | cancelled | failed _ => true
  | _ => false

def Phase.isRunning : Phase → Bool
  | submitting | polling => true
  | _ => false

inductive Event where
  | start (source : Media.Source) (button : Button)
  | created (answer : Except Backend.Failure TaskId)
  | status (task : TaskId) (answer : Except Backend.Failure Media.StatusReport)
  | stop
  | stopped (task : TaskId) (answer : Except Backend.Failure Unit)
  | tick

/-- What the owner of the controller has to do. -/
inductive Effect where
  | createTask (source : Media.Source)
  | fetchStatus (task : TaskId)
  | cancelTask (task : TaskId)
  | completed (result : Media.Result)
  | alert (why : Failure)
  deriving DecidableEq, Repr

/-- The line below the buttons. -/
structure Gauge where
  message : String := ""
  percent : Nat := 0
  visible : Bool := false
  deriving DecidableEq, Repr, Inhabited

structure Controller where
  phase : Phase := .idle
  task : Option TaskId := none
  /-- A stop was asked for; what comes afterwards is not looked at. -/
  stopping : Bool := false
  attempts : Nat := 0
  /-- A status was asked for and has not come. -/
  awaiting : Bool := false
  nextPoll : Option Time := none
  resetAt : Option Time := none
  buttons : Buttons := .reset
  gauge : Gauge := {}
  deriving DecidableEq, Repr

namespace Controller

def isRunning (c : Controller) : Bool := c.phase.isRunning

/-- A status would be asked for at the next poll. -/
def isWaiting (c : Controller) : Bool := c.phase = .polling && !c.awaiting && !c.stopping

/-- The earlier of two times, of which each may be missing. -/
def earlier : Option Time → Option Time → Option Time
  | some a, some b => some (min a b)
  | a, b => a.or b

/-- The next time at which a tick does something. -/
def nextDeadline (c : Controller) : Option Time :=
  earlier (if c.isWaiting then c.nextPoll else none) c.resetAt

/-- The bar never stands still at its end before the conversion is done. -/
def percentAt (attempt : Nat) : Nat := min (60 + attempt * 30 / maxAttempts) 90

/-- The end of a conversion that was stopped. -/
def cancel (c : Controller) (now : Time) : Controller :=
  { c with
    phase := .cancelled
    stopping := true
    nextPoll := none
    buttons := .reset
    gauge := ⟨"Cancelled", c.gauge.percent, true⟩
    resetAt := some (now + resetDelay) }

def fail (c : Controller) (why : Failure) (now : Time) : Controller × Option Effect :=
  ({ c with
    phase := .failed why
    nextPoll := none
    awaiting := false
    buttons := .reset
    gauge := { c.gauge with visible := false }
    resetAt := some (now + resetDelay) }, some (.alert why))

/-- Back to rest. The text of the bar and the count of reports stay, unseen, until the next
start. -/
def reset (c : Controller) : Controller :=
  { c with
    phase := .idle
    task := none
    stopping := false
    awaiting := false
    nextPoll := none
    resetAt := none
    buttons := .reset
    gauge := { c.gauge with visible := false } }

/-- A start counts only at rest. -/
def start (c : Controller) (source : Media.Source) (button : Button) :
    Controller × Option Effect :=
  if c.phase = .idle then
    ({ phase := .submitting
       buttons := c.buttons.begin button
       gauge := ⟨"Starting conversion...", 10, true⟩ }, some (.createTask source))
  else (c, none)

def onCreated (c : Controller) (answer : Except Backend.Failure TaskId) (now : Time) :
    Controller × Option Effect :=
  if c.phase = .submitting then
    match answer with
    | .ok task =>
        ({ c with phase := .polling, task := some task, nextPoll := some (now + pollInterval) },
          none)
    | .error e => c.fail (.start e.userMessage) now
  else (c, none)

/-- The task whose answers count: the current one, while it is polled. -/
def isCurrent (c : Controller) (task : TaskId) : Bool :=
  c.phase = .polling && c.task == some task

/-- What is shown while the task runs. -/
def runningMessage (report : Media.StatusReport) : String :=
  match report.message with
  | none | some "" => "Processing..."
  | some text => text

/-- Goes on after a report that decides nothing: to the next poll, or to the end of patience. -/
def pollAgain (c : Controller) (now : Time) : Controller × Option Effect :=
  if maxAttempts ≤ c.attempts then c.fail .timeout now
  else ({ c with nextPoll := some (now + pollInterval) }, none)

/-- A report on the task that runs; a failed question counts as one, too. -/
def onReport (c : Controller) (answer : Except Backend.Failure Media.StatusReport) (now : Time) :
    Controller × Option Effect :=
  let counted := { c with attempts := c.attempts + 1 }
  match answer with
  | .error _ => counted.pollAgain now
  | .ok report =>
      match report.status with
      | .completed =>
          ({ counted with
            phase := .completed
            gauge := ⟨"Done!", 100, true⟩
            nextPoll := none
            resetAt := some (now + resetDelay) }, some (.completed report.result))
      | .cancelled => (counted.cancel now, none)
      | .error => counted.fail (.backend (report.error.getD "Conversion failed")) now
      | .pending | .processing | .other =>
          { counted with gauge := ⟨runningMessage report, percentAt c.attempts, true⟩ }.pollAgain
            now

def onStatus (c : Controller) (task : TaskId)
    (answer : Except Backend.Failure Media.StatusReport) (now : Time) :
    Controller × Option Effect :=
  if c.isCurrent task then
    let heard := { c with awaiting := false }
    if c.stopping then (heard, none) else heard.onReport answer now
  else (c, none)

def stop (c : Controller) : Controller × Option Effect :=
  if c.phase = .polling && !c.stopping then
    match c.task with
    | some task =>
        ({ c with stopping := true, buttons := c.buttons.markStopping }, some (.cancelTask task))
    | none => (c, none)
  else (c, none)

/-- The task ends as cancelled even when the converter could not be told. -/
def onStopped (c : Controller) (task : TaskId) (now : Time) : Controller × Option Effect :=
  if c.isCurrent task then (c.cancel now, none) else (c, none)

/-- A time that may be missing has come. -/
def isDue (t : Option Time) (now : Time) : Bool :=
  match t with
  | some t => t ≤ now
  | none => false

def tick (c : Controller) (now : Time) : Controller × Option Effect :=
  if isDue c.resetAt now then (c.reset, none)
  else if c.isWaiting && isDue c.nextPoll now then
    match c.task with
    | some task => ({ c with awaiting := true, nextPoll := none }, some (.fetchStatus task))
    | none => (c, none)
  else (c, none)

/-- Applies one event. -/
def step (c : Controller) (now : Time) : Event → Controller × Option Effect
  | .start source button => c.start source button
  | .created answer => c.onCreated answer now
  | .status task answer => c.onStatus task answer now
  | .stop => c.stop
  | .stopped task _ => c.onStopped task now
  | .tick => c.tick now

/-- Applies events with their times, and collects the effects in order. -/
def run (c : Controller) : List (Time × Event) → Controller × List Effect
  | [] => (c, [])
  | (now, event) :: rest =>
      let (next, effect) := c.step now event
      let (last, effects) := next.run rest
      (last, effect.toList ++ effects)

end Controller

end KeySheet.Conversion
