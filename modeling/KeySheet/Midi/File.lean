import KeySheet.Midi.Track

/-! Standard MIDI files: a header chunk and tracks, perhaps inside a wrapper of little-endian
chunks. Only the header must be sound; everything behind it is read as far as it goes. -/
namespace KeySheet.Midi

inductive Format where
  | singleTrack
  | parallel
  | sequential
  deriving DecidableEq, Repr

inductive Timing where
  | metrical (ticksPerBeat : Nat)
  /-- Frames a second and ticks a frame. -/
  | timecode (fps ticks : Nat)
  deriving DecidableEq, Repr

structure Header where
  format : Format
  timing : Timing
  deriving DecidableEq, Repr

structure File where
  header : Header
  tracks : List (List Event)
  deriving DecidableEq, Repr

/-- Why a file is no MIDI file. -/
inductive ParseError where
  | notMidi
  | noRiffChunk
  | noFormType
  | notRmid
  | noDataChunk
  | noHeader
  | trackFirst
  | badHeader
  deriving DecidableEq, Repr

def ParseError.message : ParseError → String
  | .notMidi => "invalid midi: not a midi file"
  | .noRiffChunk => "invalid midi: no main riff chunk"
  | .noFormType => "invalid midi: failed to read riff formtype"
  | .notRmid => "invalid midi: not an rmid riff file"
  | .noDataChunk => "invalid midi: no rmid data chunk"
  | .noHeader => "invalid midi: no midi header chunk"
  | .trackFirst => "invalid midi: expected header, found track"
  | .badHeader => "invalid midi: invalid midi header"

def tag (s : String) : Bytes := s.toList.map (fun c => UInt8.ofNat c.toNat)

def formatOf : Nat → Option Format
  | 0 => some .singleTrack
  | 1 => some .parallel
  | 2 => some .sequential
  | _ => none

/-- A word without its top bit counts ticks a beat; else its high byte is the negated number of
frames a second. -/
def timingOf (word : Nat) : Option Timing :=
  if word < 0x8000 then some (.metrical word)
  else
    let fps := 256 - word / 256
    if fps = 24 ∨ fps = 25 ∨ fps = 29 ∨ fps = 30 then some (.timecode fps (word % 256)) else none

/-- Format, number of tracks and timing; the number is not used. -/
def readHeader (bs : Bytes) : Option Header := do
  let (format, rest) ← takeExactly 2 bs
  let format ← formatOf (bigEndian format)
  let (_, rest) ← takeExactly 2 rest
  let (timing, _) ← takeExactly 2 rest
  return ⟨format, ← timingOf (bigEndian timing)⟩

/-- A chunk: its tag, its data and what follows. A chunk longer than the file has what is there;
a tag or length that is cut off is no chunk. -/
def readChunk (bs : Bytes) : Option (Bytes × Bytes × Bytes) := do
  let (id, rest) ← takeExactly 4 bs
  let (len, rest) ← takeExactly 4 rest
  let (data, rest) := takeUpTo (bigEndian len) rest
  return (id, data, rest)

/-- The same in the wrapper, where lengths are little-endian and data is padded to even length. -/
def readWrapped (bs : Bytes) : Option (Bytes × Bytes × Bytes) := do
  let (id, rest) ← takeExactly 4 bs
  let (len, rest) ← takeExactly 4 rest
  let n := littleEndian len
  let (data, rest) := takeUpTo n rest
  return (id, data, rest.drop (n % 2))

/-- The first chunk of the wrapper with the tag `data`. -/
def findData : Nat → Bytes → Option Bytes
  | 0, _ => none
  | fuel + 1, bs =>
      match readWrapped bs with
      | none => none
      | some (id, data, rest) => if id == tag "data" then some data else findData fuel rest

def unwrap (bs : Bytes) : Except ParseError Bytes :=
  match readWrapped bs with
  | none => .error .noRiffChunk
  | some (_, body, _) =>
      match takeExactly 4 body with
      | none => .error .noFormType
      | some (form, rest) =>
          if form != tag "RMID" then .error .notRmid
          else match findData rest.length rest with
            | none => .error .noDataChunk
            | some data => .ok data

/-- The header in the first chunk that is known, and the bytes behind it. -/
def findHeader : Nat → Bytes → Except ParseError (Header × Bytes)
  | 0, _ => .error .noHeader
  | fuel + 1, bs =>
      if bs.isEmpty then .error .noHeader
      else match readChunk bs with
        | none => .error .badHeader
        | some (id, data, rest) =>
            if id == tag "MThd" then
              match readHeader data with
              | some h => .ok (h, rest)
              | none => .error .badHeader
            else if id == tag "MTrk" then .error .trackFirst
            else findHeader fuel rest

variable (readable : Contents)

/-- Every track chunk, whatever sound chunk stands between: a second header that is not sound
ends the file. -/
def findTracks : Nat → Bytes → List (List Event)
  | 0, _ => []
  | fuel + 1, bs =>
      match readChunk bs with
      | none => []
      | some (id, data, rest) =>
          if id == tag "MTrk" then trackEvents readable data :: findTracks fuel rest
          else if id == tag "MThd" && (readHeader data).isNone then []
          else findTracks fuel rest

/-- A file, read by what the reader goes on behind. -/
def parseWith (bs : Bytes) : Except ParseError File := do
  let raw ←
    if bs.take 4 == tag "RIFF" then unwrap bs
    else if bs.take 4 == tag "MThd" then .ok bs
    else .error .notMidi
  let (header, rest) ← findHeader (raw.length + 1) raw
  return ⟨header, findTracks readable rest.length rest⟩

/-- The reader of the desk: it goes on behind a meta event whose contents it can make out. -/
def parse : Bytes → Except ParseError File := parseWith isMetaReadable

end KeySheet.Midi
