import KeySheet.Proofs.Midi.Format
import Mathlib.Algebra.Group.Nat.Defs

/-! How MIDI files are written. An event has its delta time in front, and a message may leave out
its status directly behind a message of the same status; tracks and other data stand in chunks
behind the header. The files that are written say, by the format, what was to be said. -/
namespace KeySheet.Midi

/-! ## Numbers -/

/-- The last groups of seven bits of a number, so many, each told to go on. -/
def leadingGroups : Nat → Nat → Bytes
  | 0, _ => []
  | k + 1, n => leadingGroups k (n / 128) ++ [UInt8.ofNat (128 + n % 128)]

/-- How many groups stand in front of the last one, for numbers of at most four groups. -/
def groupsBefore (n : Nat) : Nat :=
  if n < 2 ^ 7 then 0 else if n < 2 ^ 14 then 1 else if n < 2 ^ 21 then 2 else 3

/-- A number in as few groups of seven bits as it needs. -/
def varBytes (n : Nat) : Bytes :=
  leadingGroups (groupsBefore n) (n / 128) ++ [UInt8.ofNat (n % 128)]

/-- The last bytes of a number, so many, most significant first. -/
def wordBytes : Nat → Nat → Bytes
  | 0, _ => []
  | k + 1, n => wordBytes k (n / 256) ++ [UInt8.ofNat (n % 256)]

/-- Bytes behind their number. -/
def blockBytes (data : Bytes) : Bytes := varBytes data.length ++ data

/-- A chunk: its tag, the length of its data, and the data. -/
def chunkBytes (id data : Bytes) : Bytes := id ++ wordBytes 4 data.length ++ data

/-! ## Events -/

/-- What is said on a channel. Values have seven bits. -/
inductive Message where
  | noteOff (key velocity : Fin 128)
  | noteOn (key velocity : Fin 128)
  | keyPressure (key pressure : Fin 128)
  | control (number value : Fin 128)
  | program (number : Fin 128)
  | pressure (value : Fin 128)
  | bend (low high : Fin 128)
  deriving DecidableEq, Repr

namespace Message

/-- The upper half of the status. -/
def kind : Message → Nat
  | noteOff _ _ => 8
  | noteOn _ _ => 9
  | keyPressure _ _ => 10
  | control _ _ => 11
  | program _ => 12
  | pressure _ => 13
  | bend _ _ => 14

def values : Message → List (Fin 128)
  | noteOff a b | noteOn a b | keyPressure a b | control a b | bend a b => [a, b]
  | program a | pressure a => [a]

def bytes (m : Message) : Bytes := m.values.map (fun v => UInt8.ofNat v.val)

def status (m : Message) (channel : Fin 16) : UInt8 := UInt8.ofNat (16 * m.kind + channel.val)

/-- A note begins: with velocity zero, a note-on is a note-off. -/
def sounds : Message → Bool
  | noteOn _ velocity => 0 < velocity.val
  | _ => false

end Message

/-- What an event says. -/
inductive Item where
  | message (channel : Fin 16) (message : Message)
  | «meta» (kind : UInt8) (data : Bytes)
  | sysex (data : Bytes)
  | escape (data : Bytes)
  deriving DecidableEq, Repr

namespace Item

def status : Item → UInt8
  | message channel m => m.status channel
  | «meta» _ _ => 0xFF
  | sysex _ => 0xF0
  | escape _ => 0xF7

/-- What stands behind the status. -/
def body : Item → Bytes
  | message _ m => m.bytes
  | «meta» kind data => kind :: blockBytes data
  | sysex data | escape data => blockBytes data

/-- The status that the next message may leave out. -/
def running? : Item → Option UInt8
  | message channel m => some (m.status channel)
  | _ => none

/-- The data has a length that can be written. -/
def Fits : Item → Prop
  | message _ _ => True
  | «meta» _ data | sysex data | escape data => data.length < 2 ^ 28

instance : DecidablePred Fits
  | message _ _ => isTrue trivial
  | «meta» _ data | sysex data | escape data => inferInstanceAs (Decidable (data.length < 2 ^ 28))

/-- The event that is said. -/
def event : Item → Event
  | message channel m => .channel (m.status channel) m.bytes
  | «meta» kind data => .meta kind data
  | sysex data => .sysex data
  | escape data => .escape data

def sounds : Item → Bool
  | message _ m => m.sounds
  | _ => false

end Item

/-- An event as it is written: the time since the one before, and whether its status is left out. -/
structure Written where
  delta : Nat
  running : Bool
  item : Item
  deriving DecidableEq, Repr

def Written.bytes (w : Written) : Bytes :=
  varBytes w.delta ++ ((if w.running then [] else [w.item.status]) ++ w.item.body)

def trackBytes (track : List Written) : Bytes := track.flatMap Written.bytes

/-- Events that can be written behind a status: times and lengths are below the limit, and a status
is left out only where the message before has the same. -/
def Spelled : Option UInt8 → List Written → Prop
  | _, [] => True
  | before, w :: track =>
      w.delta < 2 ^ 28 ∧ w.item.Fits ∧
        (w.running = true → before ≠ none ∧ w.item.running? = before) ∧
        Spelled w.item.running? track

instance decidableSpelled : (before : Option UInt8) → (track : List Written) →
    Decidable (Spelled before track)
  | _, [] => isTrue trivial
  | before, w :: track =>
      have := decidableSpelled w.item.running? track
      inferInstanceAs (Decidable (_ ∧ _ ∧ (_ → before ≠ none ∧ w.item.running? = before) ∧ _))

/-! ## Files -/

inductive Chunk where
  | track (events : List Written)
  | other (id data : Bytes)
  deriving DecidableEq, Repr

namespace Chunk

def bytes : Chunk → Bytes
  | track events => chunkBytes (tag "MTrk") (trackBytes events)
  | other id data => chunkBytes id data

/-- A chunk that can be written; an unknown one has neither of the known tags. -/
def Spelled : Chunk → Prop
  | track events => Midi.Spelled none events ∧ (trackBytes events).length < 2 ^ 32
  | other id data =>
      id.length = 4 ∧ id ≠ tag "MThd" ∧ id ≠ tag "MTrk" ∧ data.length < 2 ^ 32

instance : DecidablePred Spelled
  | track events => inferInstanceAs (Decidable (Midi.Spelled none events ∧ _))
  | other id data => inferInstanceAs (Decidable (id.length = 4 ∧ _ ∧ _ ∧ data.length < 2 ^ 32))

def track? : Chunk → Option (List Written)
  | track events => some events
  | other _ _ => none

end Chunk

def Format.number : Format → Nat
  | .singleTrack => 0
  | .parallel => 1
  | .sequential => 2

/-- The resolution as two bytes: fifteen bits of ticks a beat, or the negated rate and the ticks of
a frame. -/
def Timing.word : Timing → Nat
  | .metrical ticks => ticks
  | .timecode fps ticks => 256 * (256 - fps) + ticks

def Timing.Supported : Timing → Prop
  | .metrical ticks => ticks < 2 ^ 15
  | .timecode fps ticks => fps ∈ [24, 25, 29, 30] ∧ ticks < 256

instance : DecidablePred Timing.Supported
  | .metrical ticks => inferInstanceAs (Decidable (ticks < 2 ^ 15))
  | .timecode fps ticks => inferInstanceAs (Decidable (fps ∈ [24, 25, 29, 30] ∧ ticks < 256))

def headerBytes (h : Header) (tracks : Nat) : Bytes :=
  chunkBytes (tag "MThd")
    (wordBytes 2 h.format.number ++ (wordBytes 2 tracks ++ wordBytes 2 h.timing.word))

def tracksOf (chunks : List Chunk) : List (List Written) := chunks.filterMap Chunk.track?

/-- What is said in each track. -/
def itemsOf (chunks : List Chunk) : List (List Item) :=
  (tracksOf chunks).map (List.map Written.item)

def fileBytes (h : Header) (chunks : List Chunk) : Bytes :=
  headerBytes h (tracksOf chunks).length ++ chunks.flatMap Chunk.bytes

variable {n k acc value : Nat} {data id tail : Bytes} {before : Option UInt8} {w : Written}
  {track : List Written} {chunks : List Chunk} {h : Header}

/-! ## Numbers, blocks and chunks -/

theorem toNat_byte (small : n < 256) : (UInt8.ofNat n).toNat = n := UInt8.toNat_ofNat_of_lt' small

theorem length_leadingGroups (k n : Nat) : (leadingGroups k n).length = k := by
  induction k generalizing n with
  | zero => rfl
  | succ k ih => rw [leadingGroups, List.length_append, ih, List.length_singleton]

/-- Leading groups carry their digits over to what follows. -/
theorem groups_leadingGroups
    (follows : Groups (acc * 128 ^ k + n % 128 ^ k) tail value) :
    Groups acc (leadingGroups k n ++ tail) value := by
  -- The last group is peeled off, so the groups in front carry the quotient.
  induction k generalizing n tail with
  | zero => simpa [leadingGroups, Nat.mod_one] using follows
  | succ k ih =>
      have byte : (UInt8.ofNat (128 + n % 128)).toNat = 128 + n % 128 := toNat_byte (by omega)
      have sum : 128 * (acc * 128 ^ k + n / 128 % 128 ^ k) + n % 128 =
          acc * 128 ^ (k + 1) + n % 128 ^ (k + 1) := by
        have split : n % 128 ^ (k + 1) = n % 128 + 128 * (n / 128 % 128 ^ k) := by
          rw [Nat.pow_succ', Nat.mod_mul]
        rw [split, Nat.pow_succ, Nat.mul_add, ← Nat.mul_assoc acc, Nat.mul_comm 128 (acc * _)]
        omega
      rw [leadingGroups, List.append_assoc, List.singleton_append]
      refine ih (.more ?_ ?_)
      · rw [byte]
        exact Nat.le_add_right 128 _
      · rw [byte, show (128 + n % 128) % 128 = n % 128 by omega, sum]
        exact follows

theorem groupsBefore_fit (small : n < 2 ^ 28) :
    groupsBefore n ≤ 3 ∧ n / 128 < 128 ^ groupsBefore n := by
  unfold groupsBefore
  split
  · exact ⟨by decide, by rw [Nat.pow_zero]; omega⟩
  · split
    · exact ⟨by decide, by omega⟩
    · split
      · exact ⟨by decide, by omega⟩
      · exact ⟨by decide, by omega⟩

theorem varBytes_isNumber (small : n < 2 ^ 28) : IsNumber (varBytes n) n := by
  obtain ⟨few, fits⟩ := groupsBefore_fit small
  have byte : (UInt8.ofNat (n % 128)).toNat = n % 128 := toNat_byte (by omega)
  constructor
  · apply groups_leadingGroups
    rw [Nat.mod_eq_of_lt fits, Nat.zero_mul, Nat.zero_add]
    have last : Groups (n / 128) [UInt8.ofNat (n % 128)] (128 * (n / 128) + n % 128) := by
      have small : (UInt8.ofNat (n % 128)).toNat < 128 := by
        rw [byte]
        exact Nat.mod_lt n (by decide)
      have group : Groups (n / 128) [UInt8.ofNat (n % 128)] _ := .last small
      rwa [byte] at group
    rwa [Nat.div_add_mod] at last
  · rw [varBytes, List.length_append, length_leadingGroups, List.length_singleton]
    omega

theorem blockBytes_isBlock (small : data.length < 2 ^ 28) : IsBlock (blockBytes data) data :=
  ⟨varBytes data.length, varBytes_isNumber small, rfl⟩

theorem bigEndian_wordBytes (k n : Nat) : bigEndian (wordBytes k n) = n % 256 ^ k := by
  induction k generalizing n with
  | zero => simp [wordBytes, bigEndian, Nat.mod_one]
  | succ k ih =>
      have byte : (UInt8.ofNat (n % 256)).toNat = n % 256 := toNat_byte (by omega)
      have last : bigEndian (wordBytes (k + 1) n) =
          256 * bigEndian (wordBytes k (n / 256)) + (UInt8.ofNat (n % 256)).toNat := by
        rw [wordBytes, bigEndian, List.foldl_append]
        rfl
      rw [last, ih, byte, Nat.pow_succ', Nat.mod_mul, Nat.add_comm]

@[simp] theorem length_wordBytes (k n : Nat) : (wordBytes k n).length = k := by
  induction k generalizing n with
  | zero => rfl
  | succ k ih => rw [wordBytes, List.length_append, ih, List.length_singleton]

theorem chunkBytes_isChunk (four : id.length = 4) (small : data.length < 2 ^ 32) :
    IsChunk (chunkBytes id data) id data := by
  refine ⟨wordBytes 4 data.length, four, length_wordBytes 4 _, ?_, ?_⟩
  · rw [bigEndian_wordBytes]
    exact Nat.mod_eq_of_lt small
  · rw [chunkBytes, List.append_assoc]

/-! ## Messages and events -/

theorem Message.toNat_status (m : Message) (channel : Fin 16) :
    (m.status channel).toNat = 16 * m.kind + channel.val := by
  have := channel.isLt
  refine toNat_byte ?_
  cases m <;> simp only [kind] <;> omega

theorem Message.isMessage (m : Message) (channel : Fin 16) :
    IsMessage (m.status channel) m.bytes := by
  have number := m.toNat_status channel
  have := channel.isLt
  constructor
  · rw [number]
    cases m <;> simp only [kind] <;> omega
  · rw [number]
    cases m <;> simp only [kind] <;> omega
  · have length : m.bytes.length = if m.kind = 12 ∨ m.kind = 13 then 1 else 2 := by
      cases m <;> rfl
    rw [length, dataCount, number]
    simp only [Bool.and_eq_true, decide_eq_true_eq]
    by_cases single : m.kind = 12 ∨ m.kind = 13
    · rw [if_pos single, if_pos (by omega)]
    · rw [if_neg single, if_neg (by omega)]
  · intro b member
    obtain ⟨v, -, rfl⟩ := List.mem_map.mp member
    have := v.isLt
    rw [toNat_byte (by omega)]
    exact this

theorem Item.isEvent {item : Item} (fits : item.Fits) (before : Option UInt8) :
    IsEvent before (item.status :: item.body) item.event item.running? := by
  cases item with
  | message channel m => exact .whole (m.isMessage channel)
  | «meta» kind data => exact .meta (blockBytes_isBlock fits)
  | sysex data => exact .sysex (blockBytes_isBlock fits)
  | escape data => exact .escape (blockBytes_isBlock fits)

/-- Where the status may be left out, what is left says the same. -/
theorem Item.isEvent_running {item : Item} (behind : before ≠ none) (same : item.running? = before) :
    IsEvent before item.body item.event item.running? := by
  cases item with
  | message channel m => exact .running (m.isMessage channel) same.symm
  | «meta» | sysex | escape => exact absurd same.symm behind

/-! ## Tracks and files -/

theorem trackBytes_isTrack (spelled : Spelled before track) :
    IsTrack before (trackBytes track) ((track.map Written.item).map Item.event) := by
  induction track generalizing before with
  | nil => exact .nil
  | cons w track ih =>
      obtain ⟨short, fits, runs, later⟩ := spelled
      have bytes : trackBytes (w :: track) = varBytes w.delta ++
          (((if w.running then [] else [w.item.status]) ++ w.item.body) ++ trackBytes track) :=
        List.append_assoc _ _ _
      rw [bytes]
      refine .cons (varBytes_isNumber short) ?_ (ih later)
      cases running : w.running with
      | false => exact Item.isEvent fits before
      | true =>
          obtain ⟨behind, same⟩ := runs running
          exact Item.isEvent_running behind same

/-- The known tags have their four bytes. -/
theorem tags : (tag "MThd").length = 4 ∧ (tag "MTrk").length = 4 := by
  decide

theorem chunks_isBody (spelled : ∀ c ∈ chunks, c.Spelled) :
    IsBody (chunks.flatMap Chunk.bytes) ((itemsOf chunks).map (List.map Item.event)) := by
  induction chunks with
  | nil => exact .nil
  | cons c chunks ih =>
      obtain ⟨here, later⟩ := List.forall_mem_cons.mp spelled
      rw [List.flatMap_cons]
      cases c with
      | track events =>
          obtain ⟨events, short⟩ := here
          exact .track (chunkBytes_isChunk tags.2 short) (trackBytes_isTrack events) (ih later)
      | other id data =>
          obtain ⟨four, noHeader, noTrack, short⟩ := here
          exact .other (chunkBytes_isChunk four short) noHeader noTrack (ih later)

theorem formatOf_number (f : Format) : formatOf f.number = some f := by cases f <;> rfl

theorem timingOf_word {t : Timing} (supported : t.Supported) : timingOf t.word = some t := by
  cases t with
  | metrical ticks => exact if_pos supported
  | timecode fps ticks =>
      obtain ⟨known, byte⟩ := supported
      simp only [List.mem_cons, List.not_mem_nil, or_false] at known
      have rate : 256 - (256 * (256 - fps) + ticks) / 256 = fps := by omega
      have low : (256 * (256 - fps) + ticks) % 256 = ticks := by omega
      rw [Timing.word, timingOf, if_neg (by omega)]
      simp only [rate, low]
      exact if_pos known

theorem Timing.Supported.word_lt {t : Timing} (supported : t.Supported) : t.word < 65536 := by
  cases t with
  | metrical ticks => exact Nat.lt_trans supported (by decide)
  | timecode fps ticks =>
      obtain ⟨known, byte⟩ := supported
      simp only [List.mem_cons, List.not_mem_nil, or_false] at known
      rw [Timing.word]
      omega

/-- The header says its format and timing; the number of tracks says nothing. -/
theorem wordBytes_isHeader (supported : h.timing.Supported) (tracks : Nat) :
    IsHeader
      (wordBytes 2 h.format.number ++ (wordBytes 2 tracks ++ wordBytes 2 h.timing.word)) h := by
  refine ⟨_, _, _, length_wordBytes 2 _, length_wordBytes 2 _, length_wordBytes 2 _, ?_, ?_, rfl⟩
  · rw [bigEndian_wordBytes, Nat.mod_eq_of_lt (by cases h.format <;> decide), formatOf_number]
  · have small : h.timing.word % 256 ^ 2 = h.timing.word := Nat.mod_eq_of_lt supported.word_lt
    rw [bigEndian_wordBytes, small, timingOf_word supported]

/-- A written file says what was to be said, by the format. -/
theorem fileBytes_spells (supported : h.timing.Supported) (spelled : ∀ c ∈ chunks, c.Spelled) :
    Spells (fileBytes h chunks) ⟨h, (itemsOf chunks).map (List.map Item.event)⟩ := by
  refine ⟨_, _, _, chunkBytes_isChunk tags.1 ?_, wordBytes_isHeader supported _,
    chunks_isBody spelled, rfl⟩
  simp only [List.length_append, length_wordBytes]
  decide

end KeySheet.Midi
