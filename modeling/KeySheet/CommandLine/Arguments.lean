import KeySheet.Media.Source

/-! The command line: options in any order and a command. Of an option, and of the command, the
last one counts; the first thing that is wrong ends the reading. -/
namespace KeySheet.CommandLine

inductive Command where
  /-- The interactive screen. -/
  | interactive
  | colorize (path : String)
  | convert (url : String)
  | sheet (midi : String) (multi : Bool)
  deriving DecidableEq, Repr

structure Options where
  server : String
  device : Media.Device := .cuda
  logFile : Option String := none
  command : Command := .interactive
  deriving DecidableEq, Repr

/-- The words that mean something. -/
inductive Flag where
  | server
  | device
  | log
  | help
  | convert
  | colorize
  | sheet
  | multi
  deriving DecidableEq, Repr

namespace Flag

def ofText? : String → Option Flag
  | "--server" | "-s" => some server
  | "--device" | "-d" => some device
  | "--log" => some log
  | "--help" | "-h" => some help
  | "convert" => some convert
  | "colorize" => some colorize
  | "sheet" => some sheet
  | "--multi" => some multi
  | _ => none

/-- The name in messages: the long one, whichever was written. -/
def name : Flag → String
  | server => "--server"
  | device => "--device"
  | log => "--log"
  | help => "--help"
  | convert => "convert"
  | colorize => "colorize"
  | sheet => "sheet"
  | multi => "--multi"

theorem ofText?_name (f : Flag) : ofText? f.name = some f := by cases f <;> rfl

end Flag

/-- What can be wrong with a command line. -/
inductive Mistake where
  | missingValue (flag : Flag)
  | unknownDevice (text : String)
  /-- The sheet option without a sheet command before it. -/
  | strayMulti
  | unknownOption (text : String)
  deriving DecidableEq, Repr

def Mistake.message : Mistake → String
  | .missingValue flag => "Error: " ++ flag.name ++ " requires an argument\n"
  | .unknownDevice text =>
      "Error: unknown device '" ++ text ++ "' (expected cuda or cpu)\n"
  | .strayMulti => "Error: --multi only applies to the sheet command\n"
  | .unknownOption text =>
      "Unknown option: " ++ text ++ "\nUse --help for usage information\n"

/-- What a command line comes to. -/
inductive Reading where
  | run (options : Options)
  | help
  | mistake (m : Mistake)
  deriving DecidableEq, Repr

/-- Sets what a flag with a value stands for; the flags without one change nothing. -/
def Options.set (o : Options) (value : String) : Flag → Except Mistake Options
  | .server => .ok { o with server := value }
  | .device =>
      match Media.Device.ofName? value with
      | some device => .ok { o with device := device }
      | none => .error (.unknownDevice value)
  | .log => .ok { o with logFile := some value }
  | .convert => .ok { o with command := .convert value }
  | .colorize => .ok { o with command := .colorize value }
  | .sheet => .ok { o with command := .sheet value false }
  | .help | .multi => .ok o

/-- Asks for all transpositions of the sheet; `none` when the last command is no sheet. -/
def Options.setMulti (o : Options) : Option Options :=
  match o.command with
  | .sheet midi _ => some { o with command := .sheet midi true }
  | _ => none

/-- Reads arguments in order. -/
def readArguments (o : Options) : List String → Reading
  | [] => .run o
  | arg :: rest =>
      match Flag.ofText? arg with
      | none => .mistake (.unknownOption arg)
      | some .help => .help
      | some .multi =>
          match o.setMulti with
          | some next => readArguments next rest
          | none => .mistake .strayMulti
      | some flag =>
          match rest with
          | [] => .mistake (.missingValue flag)
          | value :: rest =>
              match o.set value flag with
              | .ok next => readArguments next rest
              | .error m => .mistake m

/-- Where the converter is, unless something else is said. -/
def defaultServer : String := "http://127.0.0.1:5000"

/-- The variable of the environment that says something else. -/
def serverVariable : String := "SHEETTUI_SERVER"

def helpText (program : String) : String :=
  "sheettui - Media to QWERTY piano sheet converter\n\n" ++
    "Usage: " ++ program ++ " [OPTIONS] [COMMAND]\n\n" ++
    "Commands:\n" ++
    "  convert URL            Convert a media link and print the result\n" ++
    "  sheet MIDI [--multi]   Print sheet text for a MIDI file on the backend\n" ++
    "  colorize FILE          Print duration-coloured markup for sheet text\n" ++
    "                         (use - to read from stdin)\n\n" ++
    "Options:\n" ++
    "  -s, --server URL       Backend address (default: " ++ defaultServer ++ ")\n" ++
    "  -d, --device DEVICE    cuda or cpu (default: cuda)\n" ++
    "  --log FILE             Write logs to FILE (filter with RUST_LOG)\n" ++
    "  -h, --help             Print this help message\n\n" ++
    "The backend address can also be set with " ++ serverVariable ++ ".\n"

end KeySheet.CommandLine
