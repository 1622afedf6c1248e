import KeySheet.Midi.Check
import Mathlib.Data.List.TakeWhile

/-! The format of MIDI files, as a relation between bytes and what they spell, and what it is to
read them as the format has them. The reader here does, as far as it goes on behind the contents of
meta events: it gives the events of each track up to the first one behind which it does not. -/
namespace KeySheet.Midi

/-! ## The format -/

/-- Groups of seven bits that carry on a number. All have the top bit but the last. -/
inductive Groups : Nat → Bytes → Nat → Prop
  | last {acc : Nat} {b : UInt8} : b.toNat < 128 → Groups acc [b] (128 * acc + b.toNat)
  | more {acc n : Nat} {b : UInt8} {bs : Bytes} : 128 ≤ b.toNat →
      Groups (128 * acc + b.toNat % 128) bs n → Groups acc (b :: bs) n

/-- A number of at most four groups. -/
def IsNumber (bs : Bytes) (n : Nat) : Prop := Groups 0 bs n ∧ bs.length ≤ 4

/-- Data behind its length. -/
def IsBlock (bs data : Bytes) : Prop := ∃ length, IsNumber length data.length ∧ bs = length ++ data

/-- A status of a channel, with the values that belong to it. -/
structure IsMessage (status : UInt8) (data : Bytes) : Prop where
  top : 128 ≤ status.toNat
  channel : status.toNat < 0xF0
  count : data.length = dataCount status
  values : ∀ b ∈ data, b.toNat < 128

/-- An event without its time, where a status may still hold, and the status that holds behind it:
behind a message, that of the message, which the next one need not repeat. -/
inductive IsEvent (before : Option UInt8) : Bytes → Event → Option UInt8 → Prop
  | whole {status data} : IsMessage status data →
      IsEvent before (status :: data) (.channel status data) (some status)
  | running {status data} : IsMessage status data → before = some status →
      IsEvent before data (.channel status data) (some status)
  | «meta» {kind bs data} : IsBlock bs data →
      IsEvent before (0xFF :: kind :: bs) (.meta kind data) none
  | sysex {bs data} : IsBlock bs data → IsEvent before (0xF0 :: bs) (.sysex data) none
  | escape {bs data} : IsBlock bs data → IsEvent before (0xF7 :: bs) (.escape data) none

/-- Events one behind the other, each with its time in front. -/
inductive IsTrack : Option UInt8 → Bytes → List Event → Prop
  | nil {before} : IsTrack before [] []
  | cons {before after time n body event rest events} : IsNumber time n →
      IsEvent before body event after → IsTrack after rest events →
      IsTrack before (time ++ (body ++ rest)) (event :: events)

/-- A chunk: four bytes of a tag, four of a length, and the data. -/
def IsChunk (bs id data : Bytes) : Prop :=
  ∃ length, id.length = 4 ∧ length.length = 4 ∧ bigEndian length = data.length ∧
    bs = id ++ (length ++ data)

/-- The header has two bytes each for the format, for the number of tracks and for the timing. -/
def IsHeader (data : Bytes) (h : Header) : Prop :=
  ∃ format count timing, format.length = 2 ∧ count.length = 2 ∧ timing.length = 2 ∧
    formatOf (bigEndian format) = some h.format ∧ timingOf (bigEndian timing) = some h.timing ∧
    data = format ++ (count ++ timing)

/-- Tracks, with chunks of other kinds among them. -/
inductive IsBody : Bytes → List (List Event) → Prop
  | nil : IsBody [] []
  | track {bs data events rest tracks} : IsChunk bs (tag "MTrk") data → IsTrack none data events →
      IsBody rest tracks → IsBody (bs ++ rest) (events :: tracks)
  | other {bs id data rest tracks} : IsChunk bs id data → id ≠ tag "MThd" → id ≠ tag "MTrk" →
      IsBody rest tracks → IsBody (bs ++ rest) tracks

/-- The bytes are a file that says this. -/
def Spells (bs : Bytes) (file : File) : Prop :=
  ∃ first data rest, IsChunk first (tag "MThd") data ∧ IsHeader data file.header ∧
    IsBody rest file.tracks ∧ bs = first ++ rest

/-- Frames a second by the code of a start time; at 29.97 frames a second they are counted to 30. -/
def frameCount : Fin 4 → Nat
  | 0 => 24
  | 1 => 25
  | _ => 30

/-- The time at which a track starts, as a meta event has it. -/
structure StartTime where
  rate : Fin 4
  hour : Fin 24
  minute : Fin 60
  second : Fin 60
  frame : Fin (frameCount rate)
  hundredth : Fin 100

def StartTime.bytes (t : StartTime) : Bytes :=
  [UInt8.ofNat (32 * t.rate.val + t.hour.val), UInt8.ofNat t.minute.val, UInt8.ofNat t.second.val,
    UInt8.ofNat t.frame.val, UInt8.ofNat t.hundredth.val]

/-- A key signature has its two bytes, and the time at which a track starts exists. -/
def Event.WellFormed : Event → Prop
  | .meta kind data =>
      (kind = 0x59 → 2 ≤ data.length) ∧
        (kind = 0x54 → ∃ t : StartTime, ∃ more, data = t.bytes ++ more)
  | _ => True

/-- Reads every file of well-formed events as what it says. -/
def Reader.Standard (read : Reader) : Prop :=
  ∀ bs file, Spells bs file → (∀ track ∈ file.tracks, ∀ event ∈ track, event.WellFormed) →
    read bs = .ok file

variable {readable : Contents} {acc n left : Nat} {bs id data rest : Bytes} {event : Event}
  {before after : Option UInt8} {events : List Event} {tracks : List (List Event)} {h : Header}
  {file : File}

/-! ## Numbers and blocks are read -/

theorem takeExactly_append {front : Bytes} (length : front.length = n) (rest : Bytes) :
    takeExactly n (front ++ rest) = some (front, rest) := by
  subst length
  rw [takeExactly, List.take_left, List.drop_left, if_pos rfl]

theorem Groups.read (groups : Groups acc bs n) (enough : bs.length ≤ left) (rest : Bytes) :
    readVarFrom left acc (bs ++ rest) = (n, rest) := by
  induction groups generalizing left with
  | @last acc b small =>
      cases left with
      | zero => cases enough
      | succ left =>
          rw [List.singleton_append, readVarFrom, if_pos small, Nat.mod_eq_of_lt small]
  | more top groups ih =>
      cases left with
      | zero => cases enough
      | succ left =>
          rw [List.cons_append, readVarFrom, if_neg (Nat.not_lt_of_le top)]
          exact ih (Nat.le_of_succ_le_succ enough)

theorem IsNumber.read (number : IsNumber bs n) (rest : Bytes) : readVar (bs ++ rest) = (n, rest) :=
  number.1.read number.2 rest

theorem IsBlock.read (block : IsBlock bs data) (rest : Bytes) :
    readBlock (bs ++ rest) = (data, rest) := by
  obtain ⟨length, number, rfl⟩ := block
  rw [List.append_assoc, readBlock, number.read]
  exact Prod.ext List.take_left List.drop_left

theorem IsChunk.read (chunk : IsChunk bs id data) (rest : Bytes) :
    readChunk (bs ++ rest) = some (id, data, rest) := by
  obtain ⟨length, four, four', same, rfl⟩ := chunk
  rw [readChunk, List.append_assoc, List.append_assoc, takeExactly_append four]
  simp only [Option.bind_eq_bind, Option.bind_some]
  rw [takeExactly_append four']
  simp only [Option.bind_some, same, takeUpTo, List.take_left, List.drop_left]
  rfl

/-! ## Events and tracks are read -/

/-- The reader goes on behind the event. -/
def Event.isReadable (readable : Contents) : Event → Bool
  | .meta kind data => readable kind data
  | _ => true

theorem IsMessage.read {status : UInt8} (message : IsMessage status data) (rest : Bytes) :
    readBody readable status (data ++ rest) = some (.channel status data, some status, rest) := by
  have small : (data.all fun b => decide (b.toNat < 128)) = true := by
    simpa using message.values
  unfold readBody
  rw [if_pos message.channel, takeExactly_append message.count]
  exact if_pos small

/-- Without its status, a message begins with a value. -/
theorem IsMessage.starts {status : UInt8} (message : IsMessage status data) :
    ∃ b more, data = b :: more ∧ b.toNat < 128 := by
  cases data with
  | nil =>
      have none := message.count
      unfold dataCount at none
      split at none <;> cases none
  | cons b more => exact ⟨b, more, rfl, message.values b List.mem_cons_self⟩

/-- An event is read, unless it is one behind which the reader does not go on. -/
theorem IsEvent.read {time body : Bytes} (said : IsEvent before body event after)
    (number : IsNumber time n) (rest : Bytes) :
    readEvent readable before (time ++ (body ++ rest)) =
      if event.isReadable readable then some (event, after, rest) else none := by
  rw [readEvent, number.read]
  unfold readUntimed
  cases said with
  | whole message =>
      rw [List.cons_append]
      dsimp only
      rw [if_neg (Nat.not_lt_of_le message.top)]
      exact message.read rest
  | running message same =>
      obtain ⟨b, more, rfl, value⟩ := message.starts
      subst same
      rw [List.cons_append]
      dsimp only
      rw [if_pos value]
      exact message.read rest
  | «meta» block | sysex block | escape block =>
      have contents := block.read rest
      simp only [List.cons_append, readBody, contents]
      rfl

theorem Groups.ne_nil (groups : Groups acc bs n) : bs ≠ [] := by
  cases groups <;> exact List.cons_ne_nil _ _

/-- Of a track the reader gives what comes before the first event behind which it does not go on. -/
theorem IsTrack.read (track : IsTrack before bs events) {fuel : Nat} (enough : bs.length ≤ fuel) :
    readEvents readable fuel before bs = events.takeWhile (Event.isReadable readable) := by
  -- The status that holds before an event is the one the reader has kept.
  induction track generalizing fuel with
  | nil => cases fuel <;> rfl
  | @cons before after time n body event rest events number said later ih =>
      have filled := List.length_pos_iff.mpr number.1.ne_nil
      rw [List.length_append, List.length_append] at enough
      cases fuel with
      | zero => omega
      | succ fuel =>
          have behind : readEvents readable fuel after rest = _ := ih (by omega)
          rw [readEvents, said.read number]
          cases goesOn : event.isReadable readable with
          | false => simp [goesOn]
          | true => simp [goesOn, behind]

/-! ## Files are read -/

theorem IsHeader.read (header : IsHeader data h) : readHeader data = some h := by
  obtain ⟨format, count, timing, two, two', two'', isFormat, isTiming, rfl⟩ := header
  have last := takeExactly_append two'' []
  rw [List.append_nil] at last
  simp only [readHeader, takeExactly_append two, takeExactly_append two', last,
    Option.bind_eq_bind, Option.bind_some, isFormat, isTiming]
  rfl

theorem IsChunk.length_pos (chunk : IsChunk bs id data) : 0 < bs.length := by
  obtain ⟨length, four, -, -, rfl⟩ := chunk
  rw [List.length_append]
  omega

theorem IsBody.read (body : IsBody bs tracks) {fuel : Nat} (enough : bs.length ≤ fuel) :
    findTracks readable fuel bs = tracks.map (List.takeWhile (Event.isReadable readable)) := by
  induction body generalizing fuel with
  | nil => cases fuel <;> rfl
  | @track bs data events rest tracks chunk track later ih =>
      have filled := chunk.length_pos
      rw [List.length_append] at enough
      cases fuel with
      | zero => omega
      | succ fuel =>
          have behind : findTracks readable fuel rest = _ := ih (by omega)
          rw [findTracks, chunk.read]
          simp only [beq_self_eq_true, if_true, trackEvents, List.map_cons, behind,
            track.read (Nat.le_refl _)]
  | other chunk noHeader noTrack later ih =>
      have filled := chunk.length_pos
      rw [List.length_append] at enough
      cases fuel with
      | zero => omega
      | succ fuel =>
          rw [findTracks, chunk.read]
          simpa [noHeader, noTrack] using ih (by omega)

/-- A file is read: its header, and of each track what the reader gives of it. -/
theorem Spells.read (spelled : Spells bs file) :
    parseWith readable bs =
      .ok ⟨file.header, file.tracks.map (List.takeWhile (Event.isReadable readable))⟩ := by
  obtain ⟨first, data, rest, chunk, header, body, rfl⟩ := spelled
  have marked : (first ++ rest).take 4 = tag "MThd" := by
    obtain ⟨length, four, -, -, rfl⟩ := chunk
    rw [List.append_assoc, ← four]
    exact List.take_left
  have filled : (first ++ rest).isEmpty = false := by
    have := chunk.length_pos
    cases first with
    | nil => cases this
    | cons b first => rfl
  have found : findHeader ((first ++ rest).length + 1) (first ++ rest) = .ok (file.header, rest) := by
    rw [findHeader, filled, chunk.read]
    simp [header.read]
  have notWrapped : (tag "MThd" == tag "RIFF") = false := by decide
  unfold parseWith
  rw [marked, notWrapped]
  simp only [Bool.false_eq_true, if_false, beq_self_eq_true, if_true, bind, Except.bind, found,
    body.read (Nat.le_refl _)]
  rfl

/-- A reader that goes on behind all well-formed events reads files as the format has them. -/
theorem parseWith_standard (goesOn : ∀ event : Event, event.WellFormed →
    event.isReadable readable = true) : Reader.Standard (parseWith readable) := by
  intro bs file spelled wellFormed
  have whole : file.tracks.map (List.takeWhile (Event.isReadable readable)) = file.tracks := by
    refine (List.map_congr_left fun track member => ?_).trans (List.map_id _)
    refine List.takeWhile_eq_self_iff.mpr ?_
    exact fun event within => goesOn event (wellFormed track member event within)
  rw [spelled.read, whole]

end KeySheet.Midi
