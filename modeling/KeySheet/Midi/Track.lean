import KeySheet.Midi.Bytes

/-! The events of a track. Reading is lenient: it stops without complaint at the first event that
cannot be read, and what came before it counts. Which contents of a meta event can be read is up to
the reader. -/
namespace KeySheet.Midi

inductive Event where
  /-- A message on a channel: its status and one or two data bytes. -/
  | channel (status : UInt8) (data : Bytes)
  | «meta» (kind : UInt8) (data : Bytes)
  /-- A system message, whole or as an escape. -/
  | sysex (data : Bytes)
  | escape (data : Bytes)
  deriving DecidableEq, Repr

/-- How many data bytes a channel status has. -/
def dataCount (status : UInt8) : Nat :=
  if 0xC0 ≤ status.toNat && status.toNat < 0xE0 then 1 else 2

/-- Frames a second by the two bits of an offset event. -/
def frameRate (bits : Nat) : Nat :=
  match bits % 4 with
  | 0 => 24
  | 1 => 25
  | 2 => 29
  | _ => 30

/-- The time of an offset event: hour and rate, minute, second, frame and subframe. -/
def isOffsetTime : Bytes → Bool
  | h :: m :: s :: f :: sub :: _ =>
      h.toNat % 32 < 24 && m.toNat < 60 && s.toNat < 60 && f.toNat < frameRate (h.toNat / 32) &&
        sub.toNat < 100
  | _ => true

/-- A key signature needs two bytes, and an offset a time that exists. -/
def isMetaReadable (kind : UInt8) (data : Bytes) : Bool :=
  if kind == 0x59 then 2 ≤ data.length
  else if kind == 0x54 then isOffsetTime data
  else true

/-- Which contents of the meta events of each kind a reader goes on behind. -/
abbrev Contents := UInt8 → Bytes → Bool

variable (readable : Contents)

/-- An event behind its status byte, and the status that holds for events without one. -/
def readBody (status : UInt8) (bs : Bytes) : Option (Event × Option UInt8 × Bytes) :=
  if status.toNat < 0xF0 then
    match takeExactly (dataCount status) bs with
    | some (data, rest) =>
        if data.all (fun b => b.toNat < 128) then some (.channel status data, some status, rest)
        else none
    | none => none
  else if status == 0xFF then
    match bs with
    | [] => none
    | kind :: rest =>
        let (data, rest) := readBlock rest
        if readable kind data then some (.meta kind data, none, rest) else none
  else if status == 0xF0 then
    let (data, rest) := readBlock bs
    some (.sysex data, none, rest)
  else if status == 0xF7 then
    let (data, rest) := readBlock bs
    some (.escape data, none, rest)
  else none

/-- An event without its time. A byte below 128 in place of a status repeats the running one. -/
def readUntimed (running : Option UInt8) : Bytes → Option (Event × Option UInt8 × Bytes)
  | [] => none
  | b :: rest =>
      if b.toNat < 128 then
        match running with
        | none => none
        | some status => readBody readable status (b :: rest)
      else readBody readable b rest

/-- An event with its delta time in front. -/
def readEvent (running : Option UInt8) (bs : Bytes) : Option (Event × Option UInt8 × Bytes) :=
  readUntimed readable running (readVar bs).2

/-- The events of a track that can be read. The fuel is the number of bytes: every event takes at
least one. -/
def readEvents : Nat → Option UInt8 → Bytes → List Event
  | 0, _, _ => []
  | fuel + 1, running, bs =>
      match readEvent readable running bs with
      | none => []
      | some (event, running, rest) => event :: readEvents fuel running rest

def trackEvents (bs : Bytes) : List Event := readEvents readable bs.length none bs

/-- A note that begins: a note-on message with a velocity above zero. -/
def Event.isNote : Event → Bool
  | .channel status [_, velocity] => status.toNat / 16 == 9 && 0 < velocity.toNat
  | _ => false

end KeySheet.Midi
