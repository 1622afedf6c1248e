import KeySheet.Conversion.Controller

/-! A conversion without a screen: the controller is driven to its end by calling the converter
directly and sleeping in between. The host stands for the converter, the clock and the user. -/
namespace KeySheet.Conversion

/-- What a session needs of the world. -/
structure Host (m : Type → Type) where
  now : m Time
  sleep : Nat → m Unit
  create : Media.Source → m (Except Backend.Failure TaskId)
  status : TaskId → m (Except Backend.Failure Media.StatusReport)
  stop : TaskId → m (Except Backend.Failure Unit)
  /-- Someone asks for the conversion to be stopped. -/
  stopWanted : m Bool
  /-- Shows the progress after it has changed. -/
  report : Gauge → m Unit

/-- How a session ends: with a result, without one because it was cancelled, or with a failure. -/
abbrev Outcome := Except Failure (Option Media.Result)

/-- No sleep is longer, so that a wish to stop is heeded soon. -/
def maxSleep : Nat := 100

structure Session where
  controller : Controller := {}
  /-- Effects still to be carried out, the next one last. -/
  pending : List Effect := []
  outcome : Option Outcome := none
  /-- The progress as last shown. -/
  shown : Gauge := {}

namespace Session

/-- Applies an event at the current time; an effect joins those pending. -/
def dispatch {m : Type → Type} [Monad m] (host : Host m) (s : Session) (event : Event) :
    m Session := do
  let (controller, effect) := s.controller.step (← host.now) event
  return { s with controller := controller, pending := s.pending ++ effect.toList }

/-- Carries out one effect, and feeds the answer back. -/
def perform {m : Type → Type} [Monad m] (host : Host m) (s : Session) (effect : Effect) :
    m Session := do
  match effect with
  | .createTask source => s.dispatch host (.created (← host.create source))
  | .fetchStatus task => s.dispatch host (.status task (← host.status task))
  | .cancelTask task => s.dispatch host (.stopped task (← host.stop task))
  | .completed result => return { s with outcome := some (.ok (some result)) }
  | .alert why => return { s with outcome := some (.error why) }

/-- Shows the progress if it has changed and is to be seen. -/
def showProgress {m : Type → Type} [Monad m] (host : Host m) (s : Session) : m Session := do
  let gauge := s.controller.gauge
  if gauge = s.shown then return s
  if gauge.visible then host.report gauge
  return { s with shown := gauge }

/-- The outcome, once the controller has come to an end. -/
def ended (s : Session) : Option Outcome :=
  match s.controller.phase with
  | .completed | .failed _ => s.outcome
  | .cancelled | .idle => some (s.outcome.getD (.ok none))
  | _ => none

/-- Sleeps towards the next deadline, then ticks. -/
def wait {m : Type → Type} [Monad m] (host : Host m) (s : Session) : m Session := do
  if let some deadline := s.controller.nextDeadline then
    let now ← host.now
    if now < deadline then host.sleep (min (deadline - now) maxSleep)
  s.dispatch host .tick

/-- One turn after another until the end; `none` when the fuel does not last. -/
def loop {m : Type → Type} [Monad m] (host : Host m) :
    Nat → Session → m (Option (Outcome × Session))
  | 0, _ => return none
  | fuel + 1, s =>
      match s.pending.getLast? with
      | some effect => do
          loop host fuel (← { s with pending := s.pending.dropLast }.perform host effect)
      | none => do
          let s ← s.showProgress host
          match s.ended with
          | some outcome => return some (outcome, s)
          | none =>
              if (← host.stopWanted) && !s.controller.stopping then
                loop host fuel (← s.dispatch host .stop)
              else loop host fuel (← s.wait host)

/-- Enough turns for any conversion that starts at rest: a poll takes twenty sleeps and a call. -/
def turns : Nat := 10000

/-- Converts a source, on the controller as the sessions before have left it. -/
def run {m : Type → Type} [Monad m] (host : Host m) (controller : Controller)
    (source : Media.Source) : m (Option (Outcome × Session)) := do
  let s ← dispatch host { controller := controller } (.start source (Button.ofSource source))
  loop host turns s

end Session

end KeySheet.Conversion
