import KeySheet.Proofs.Midi.Written

/-! The check of a written file. Behind any reader of the format it answers with the format, the
tracks, the resolution and the notes that were written, whether a status was left out or not, and
refuses a file without a note. The reader here misses one start time only, the last frame of a
second at 29.97 frames, and gives its track up there. -/
namespace KeySheet.Midi

variable {chunks : List Chunk} {h : Header} {read : Reader} {bs : Bytes}

/-- A note-on with a velocity is a note. -/
theorem isNote_event (item : Item) : item.event.isNote = item.sounds := by
  cases item with
  | «meta» kind data => rfl
  | sysex data => rfl
  | escape data => rfl
  | message channel m =>
      have kind : (m.status channel).toNat / 16 = m.kind := by
        have := channel.isLt
        rw [m.toNat_status]
        omega
      cases m with
      | program | pressure => rfl
      | noteOn key velocity =>
          have value : (UInt8.ofNat velocity.val).toNat = velocity.val :=
            toNat_byte (Nat.lt_trans velocity.isLt (by decide))
          simp only [Item.event, Message.bytes, Message.values, List.map, Event.isNote, kind, value]
          rfl
      | noteOff | keyPressure | control | bend =>
          simp only [Item.event, Message.bytes, Message.values, List.map, Event.isNote, kind]
          rfl

/-- The notes that begin in tracks. -/
def noteCount (tracks : List (List Item)) : Nat := tracks.flatten.countP Item.sounds

/-- The answer to a file that says this in its tracks. -/
def verdict (h : Header) (tracks : List (List Item)) : Except CheckError Summary :=
  if noteCount tracks = 0 then .error .noNotes
  else .ok ⟨h.format, tracks.length, h.timing.ticksPerBeat, noteCount tracks⟩

theorem notes_events (tracks : List (List Item)) :
    File.notes ⟨h, tracks.map (List.map Item.event)⟩ = noteCount tracks := by
  rw [File.notes, noteCount, ← List.map_flatten, List.countP_map]
  exact List.countP_congr fun item _ => by rw [Function.comp, isNote_event]

theorem checkWith_ok {tracks : List (List Item)}
    (is_ : read bs = .ok ⟨h, tracks.map (List.map Item.event)⟩) :
    checkWith read bs = verdict h tracks := by
  rw [checkWith, is_]
  simp only [notes_events, List.length_map]
  rfl

/-! ## The reader here -/

/-- All start times are read but for the last frame of a second at 29.97 frames. -/
theorem StartTime.isRead (t : StartTime) (more : Bytes) :
    isOffsetTime (t.bytes ++ more) = true ↔ ¬ (t.rate = 2 ∧ t.frame.val = 29) := by
  obtain ⟨rate, hour, minute, second, frame, hundredth⟩ := t
  have := rate.isLt
  have := hour.isLt
  have := minute.isLt
  have := second.isLt
  have := frame.isLt
  have := hundredth.isLt
  have frames : frameCount rate ≤ 30 := by
    unfold frameCount
    split <;> decide
  have first : (32 * rate.val + hour.val) / 32 = rate.val := by omega
  simp only [StartTime.bytes, List.cons_append, isOffsetTime]
  rw [toNat_byte (by omega), toNat_byte (by omega), toNat_byte (by omega), toNat_byte (by omega),
    toNat_byte (by omega), first]
  -- The frames are counted alike, but for the thirtieth at 29.97 frames.
  have known : frame.val < frameRate rate.val ↔ ¬ (rate = 2 ∧ frame.val = 29) := by
    match rate with
    | 0 | 1 | 3 => exact iff_of_true frame.isLt fun last => absurd last.1 (by decide)
    | 2 =>
        have inside : frame.val < 30 := frame.isLt
        rw [and_iff_right rfl]
        change frame.val < 29 ↔ _
        omega
  simp only [Bool.and_eq_true, decide_eq_true_eq, known]
  omega

/-- The reader goes on behind all well-formed events but that one. -/
theorem Event.WellFormed.isRead {event : Event} (wellFormed : event.WellFormed) :
    event.isReadable isMetaReadable = true ∨
      ∃ t : StartTime, ∃ more, event = .meta 0x54 (t.bytes ++ more) ∧
        t.rate = 2 ∧ t.frame.val = 29 := by
  cases event with
  | channel | sysex | escape => exact .inl rfl
  | «meta» kind data =>
      obtain ⟨signature, start⟩ := wellFormed
      simp only [Event.isReadable, isMetaReadable, beq_iff_eq]
      by_cases isSignature : kind = 0x59
      · rw [if_pos isSignature]
        exact .inl (decide_eq_true (signature isSignature))
      rw [if_neg isSignature]
      by_cases isStart : kind = 0x54
      · obtain ⟨t, more, rfl⟩ := start isStart
        rw [if_pos isStart, t.isRead]
        by_cases last : t.rate = 2 ∧ t.frame.val = 29
        · exact .inr ⟨t, more, by rw [isStart], last⟩
        · exact .inl last
      · rw [if_neg isStart]
        exact .inl rfl

/-- The part of a track that is read: everything up to the first event behind which the reader does
not go on. -/
def heard (track : List Item) : List Item :=
  track.takeWhile (fun item => item.event.isReadable isMetaReadable)

theorem checkBytes_fileBytes (supported : h.timing.Supported) (spelled : ∀ c ∈ chunks, c.Spelled) :
    checkBytes (fileBytes h chunks) = verdict h ((itemsOf chunks).map heard) := by
  have read : parseWith isMetaReadable (fileBytes h chunks) = _ :=
    (fileBytes_spells supported spelled).read
  have tracks : ((itemsOf chunks).map (List.map Item.event)).map
        (List.takeWhile (Event.isReadable isMetaReadable)) =
      ((itemsOf chunks).map heard).map (List.map Item.event) := by
    rw [List.map_map, List.map_map]
    exact List.map_congr_left fun track _ => List.takeWhile_map
  rw [tracks] at read
  exact checkWith_ok read

/-! ## Every reader -/

/-- The check of a file answers by what its tracks say, behind any reader of the format: the header,
the number of tracks, the resolution and the notes that begin, or that there is none. How the events
are written makes no difference, and other chunks make none. -/
theorem checkWith_by_items (standard : read.Standard) (supported : h.timing.Supported)
    (spelled : ∀ c ∈ chunks, c.Spelled)
    (wellFormed : ∀ track ∈ itemsOf chunks, ∀ item ∈ track, item.event.WellFormed) :
    checkWith read (fileBytes h chunks) = verdict h (itemsOf chunks) ∧
      (∀ chunks', (∀ c ∈ chunks', c.Spelled) → itemsOf chunks' = itemsOf chunks →
        checkWith read (fileBytes h chunks') = checkWith read (fileBytes h chunks)) ∧
      checkBytes (fileBytes h chunks) = verdict h ((itemsOf chunks).map heard) := by
  have said : ∀ track ∈ (itemsOf chunks).map (List.map Item.event), ∀ event ∈ track,
      event.WellFormed := by
    intro track member event within
    obtain ⟨items, listed, rfl⟩ := List.mem_map.mp member
    obtain ⟨item, here, rfl⟩ := List.mem_map.mp within
    exact wellFormed items listed item here
  have answer := checkWith_ok (standard _ _ (fileBytes_spells supported spelled) said)
  refine ⟨answer, ?_, checkBytes_fileBytes supported spelled⟩
  intro chunks' spelled' same
  have spells := fileBytes_spells supported spelled'
  rw [same] at spells
  rw [answer]
  exact checkWith_ok (standard _ _ spells said)

/-- Two notes on a key, the first ended by a note-on without velocity, behind a chunk that is not
known. -/
def twoNotes (running : Bool) : List Chunk :=
  [.other (tag "XFIH") [1, 2, 3],
    .track [⟨0, false, .message 0 (.noteOn 60 100)⟩, ⟨480, running, .message 0 (.noteOn 60 0)⟩,
      ⟨0, running, .message 0 (.noteOn 60 90)⟩, ⟨480, false, .meta 0x2F []⟩]]

/-- A reader that goes on behind all meta events. -/
def readAll : Reader := parseWith (fun _ _ => true)

theorem readAll_standard : readAll.Standard := by
  apply parseWith_standard
  intro event _
  cases event <;> rfl

theorem checkWith_twoNotes :
    readAll.Standard ∧ (∀ running, ∀ c ∈ twoNotes running, c.Spelled) ∧
      itemsOf (twoNotes false) = itemsOf (twoNotes true) ∧
      (∀ running, readAll (fileBytes ⟨.parallel, .metrical 480⟩ (twoNotes running)) =
        parse (fileBytes ⟨.parallel, .metrical 480⟩ (twoNotes running))) ∧
      ∀ running, checkWith readAll (fileBytes ⟨.parallel, .metrical 480⟩ (twoNotes running)) =
        .ok ⟨.parallel, 1, some 480, 2⟩ := by
  have spelled : ∀ running, ∀ c ∈ twoNotes running, c.Spelled := by decide
  have same : itemsOf (twoNotes false) = itemsOf (twoNotes true) := by decide
  have wellFormed : ∀ track ∈ itemsOf (twoNotes true), ∀ item ∈ track, item.event.WellFormed := by
    simp [twoNotes, itemsOf, tracksOf, Chunk.track?, Item.event, Event.WellFormed]
  have supported : Timing.Supported (.metrical 480) := by decide
  obtain ⟨answer, alike, -⟩ := checkWith_by_items (h := ⟨.parallel, .metrical 480⟩)
    readAll_standard supported (spelled true) wellFormed
  refine ⟨readAll_standard, spelled, same, ?_, ?_⟩
  · intro running
    have spells := fileBytes_spells (h := ⟨.parallel, .metrical 480⟩) supported (spelled running)
    rw [readAll, parse, spells.read, spells.read]
    cases running <;> rfl
  · intro running
    cases running with
    | true => exact answer
    | false => exact (alike _ (spelled false) same).trans answer

end KeySheet.Midi
