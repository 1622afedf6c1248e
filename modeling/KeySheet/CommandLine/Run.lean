import KeySheet.Backend.Http
import KeySheet.CommandLine.Arguments
import KeySheet.Conversion.Session
import KeySheet.Json.Writer
import KeySheet.Sheet.Markup

/-! The commands that work without a screen. They act through a host, so that the same commands run
on a real machine and on a described one. -/
namespace KeySheet.CommandLine

open Conversion (Time)

/-- What the commands need of the world. -/
structure Host (m : Type → Type) where
  transport : Backend.Transport m
  now : m Time
  sleep : Nat → m Unit
  /-- Makes an empty file. -/
  create : List Char → m (Except Files.Failure Unit)
  /-- All of the standard input. -/
  input : m (List UInt8)
  print : String → m Unit
  printError : String → m Unit
  /-- The interactive screen. -/
  interact : Options → m UInt32

/-- A failure as it is told: what could not be done, and why, where there is more to say. -/
structure Trouble where
  message : String
  cause : Option String := none
  deriving DecidableEq, Repr

/-- Every line moved to the right. -/
def indent (text : String) : String :=
  String.ofList ("    ".toList ++ text.toList.flatMap (fun c =>
    if c = '\n' then '\n' :: "    ".toList else [c]))

def Trouble.text (t : Trouble) : String :=
  "Error: " ++ t.message ++
    (match t.cause with
      | none => ""
      | some cause => "\n\nCaused by:\n" ++ indent cause) ++ "\n"

/-- Why bytes are not taken for a text. -/
def notText : String := "stream did not contain valid UTF-8"

/-- The text of bytes, under a message about where they come from. -/
def decodeText (message : String) (bytes : List UInt8) : Except Trouble String :=
  match Text.ofUtf8? bytes with
  | some text => .ok text
  | none => .error ⟨message, some notText⟩

/-- A single dash, with nothing that counts around it, means the standard input. -/
def isInput (path : String) : Bool := Files.components path.toList = [.normal ['-']]

variable {m : Type → Type} [Monad m]

def readText (host : Host m) (path : String) : m (Except Trouble String) := do
  if isInput path then return decodeText "Failed to read stdin" (← host.input)
  else
    let message := "Failed to read " ++ path
    match ← host.transport.read path.toList with
    | .ok bytes => return decodeText message bytes
    | .error cause => return .error ⟨message, some cause.message⟩

/-- Prints the markup of a sheet text. -/
def colorize (host : Host m) (path : String) : m (Except Trouble Unit) := do
  match ← readText host path with
  | .ok text => return .ok (← host.print (Sheet.colorize text))
  | .error t => return .error t

/-- A percentage in three columns, and the message. -/
def progressText (g : Conversion.Gauge) : String :=
  let digits := Text.digits g.percent
  let blanks := List.replicate (3 - digits.length) ' '
  "[" ++ String.ofList (blanks ++ digits) ++ "%] " ++ g.message ++ "\n"

/-- A session at a service; nobody can ask it to stop. -/
def sessionHost (host : Host m) (service : Backend.Service m) : Conversion.Host m where
  now := host.now
  sleep := host.sleep
  create := service.createTask
  status := service.taskStatus
  stop := service.stopTask
  stopWanted := return false
  report g := host.printError (progressText g)

/-- Converts a link, and prints the result. -/
def convert (host : Host m) (service : Backend.Service m) (url : String) (device : Media.Device) :
    m (Except Trouble Unit) := do
  match Media.Source.ofInput? url device with
  | none => return .error ⟨Conversion.Failure.message .emptyUrl, none⟩
  | some source =>
      match ← Conversion.Session.run (sessionHost host service) {} source with
      | some (.ok (some result), _) => return .ok (← host.print (result.encode.pretty ++ "\n"))
      | some (.ok none, _) => return .ok (← host.printError "Conversion was cancelled\n")
      | some (.error why, _) => return .error ⟨why.message, none⟩
      | none => return .error ⟨Conversion.Failure.message .timeout, none⟩

/-- Prints the sheet of a file that the converter has, made with the settings it keeps. -/
def printSheet (host : Host m) (service : Backend.Service m) (midi : String) (multi : Bool) :
    m (Except Trouble Unit) := do
  match ← service.loadSettings with
  | .error e => return .error ⟨"Failed to load settings", some e.message⟩
  | .ok stored =>
      let mode : TransposeMode := if multi then .multi else .auto
      match ← service.convertToSheets midi ((stored.getD {}).forMode mode) with
      | .ok score => return .ok (← host.print (score.text ++ "\n"))
      | .error e => return .error ⟨"Failed to convert " ++ midi ++ " to sheets", some e.message⟩

/-- Makes the log file, if there is to be one. -/
def openLog (host : Host m) (o : Options) : m (Except Trouble Unit) := do
  match o.logFile with
  | none => return .ok ()
  | some path =>
      match ← host.create path.toList with
      | .ok _ => return .ok ()
      | .error cause => return .error ⟨"Failed to create log file " ++ path, some cause.message⟩

/-- Zero, or one with the trouble told. -/
def exitCode (host : Host m) : Except Trouble Unit → m UInt32
  | .ok _ => return 0
  | .error t => do
      host.printError t.text
      return 1

def perform (host : Host m) (o : Options) : m UInt32 := do
  match ← openLog host o with
  | .error t => exitCode host (.error t)
  | .ok _ =>
      let service := Backend.Service.http host.transport o.server
      match o.command with
      | .interactive => host.interact o
      | .colorize path => exitCode host (← colorize host path)
      | .convert url => exitCode host (← convert host service url o.device)
      | .sheet midi multi => exitCode host (← printSheet host service midi multi)

/-- The whole program: the exit code for arguments, given the server of the environment. -/
def run (host : Host m) (program : String) (server : Option String) (args : List String) :
    m UInt32 := do
  match readArguments { server := server.getD defaultServer } args with
  | .run o => perform host o
  | .help => do
      host.printError (helpText program)
      return 0
  | .mistake e => do
      host.printError e.message
      return 1

end KeySheet.CommandLine
