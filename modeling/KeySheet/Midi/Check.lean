import KeySheet.Files.Tree
import KeySheet.Midi.File

/-! The check before an upload: the file must be named as MIDI, be readable, parse, and have a note
in it. The check of bytes takes what reads them as it is, and looks at what was read alone. -/
namespace KeySheet.Midi

inductive CheckError where
  | file (cause : Files.Failure)
  /-- The name does not end as a MIDI file's does. -/
  | notMidi (path : String)
  | parse (cause : ParseError)
  | noNotes
  deriving DecidableEq, Repr

def CheckError.message : CheckError → String
  | .file cause => "IO error: " ++ cause.message
  | .notMidi path => "not a MIDI file: " ++ path
  | .parse cause => "MIDI parse error: " ++ cause.message
  | .noNotes => "MIDI file contains no notes"

structure Summary where
  format : Format
  tracks : Nat
  /-- The resolution of metrical time. -/
  ticksPerBeat : Option Nat
  notes : Nat
  deriving DecidableEq, Repr

def Format.label : Format → String
  | .singleTrack => "single track"
  | .parallel => "multi-track"
  | .sequential => "sequential"

def plural (n : Nat) (noun : String) : String :=
  Text.showNat n ++ " " ++ noun ++ (if n = 1 then "" else "s")

/-- The line that the status bar shows. -/
def Summary.describe (s : Summary) : String :=
  plural s.tracks "track" ++ ", " ++ plural s.notes "note"

def Timing.ticksPerBeat : Timing → Option Nat
  | .metrical n => some n
  | .timecode _ _ => none

/-- The notes of all tracks. -/
def File.notes (f : File) : Nat := f.tracks.flatten.countP Event.isNote

/-- What reads a file, or says why it is none. -/
abbrev Reader := Bytes → Except ParseError File

/-- The check behind a reader. -/
def checkWith (read : Reader) (bs : Bytes) : Except CheckError Summary :=
  match read bs with
  | .error e => .error (.parse e)
  | .ok file =>
      if file.notes = 0 then .error .noNotes
      else .ok ⟨file.header.format, file.tracks.length, file.header.timing.ticksPerBeat, file.notes⟩

def checkBytes : Bytes → Except CheckError Summary := checkWith parse

def checkFile (files : Files.Tree) (path : List Char) : Except CheckError Summary :=
  if !Files.isMidiPath path then .error (.notMidi (String.ofList path))
  else match files.read path with
    | .error e => .error (.file e)
    | .ok bs => checkBytes bs

end KeySheet.Midi
